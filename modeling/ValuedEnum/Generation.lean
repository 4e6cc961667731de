import ValuedEnum.Event
import ValuedEnum.Found
import ValuedEnum.Wrapper.Code

/-!
# Generating wrappers

Each annotated enumeration of a file becomes a unit or a diagnostic, whatever becomes of the others.
A unit holds the enumeration without the attributes of the schema, and its wrapper.
-/

namespace ValuedEnum

/-- The generated source of one enumeration. -/
structure SourceUnit where
  name : String
  tokens : TokenStream
deriving Repr, Inhabited

/-- The text that is written for a unit. -/
def SourceUnit.text (unit : SourceUnit) : String := unit.tokens.text

/-- A declaration that has no unit. -/
structure Diagnostic where
  declaration : String
  fault : Fault
deriving Repr, Inhabited

/-- The text that a diagnostic is shown as. -/
def Diagnostic.display (diagnostic : Diagnostic) : String :=
  "failed to wrap `" ++ diagnostic.declaration ++ "`"

/-- What becomes of an annotated enumeration. -/
abbrev Outcome := Except Diagnostic SourceUnit

/-- What becomes of a file, with the log of the run. -/
structure Generation where
  schema : Schema
  outcomes : List Outcome
  events : List Event
deriving Inhabited

namespace Generation

/-- The units of a generation, in their order. -/
def units (generation : Generation) : List SourceUnit :=
  generation.outcomes.filterMap Except.toOption

/-- The diagnostics of a generation, in their order. -/
def diagnostics (generation : Generation) : List Diagnostic :=
  generation.outcomes.filterMap fun
    | .ok _ => none
    | .error diagnostic => some diagnostic

end Generation

namespace Found

/-- The unit of a declaration: the enumeration as it was found, and the wrapper. -/
def unit (schema : Schema) (found : Found) (declaration : Declaration) : SourceUnit :=
  ⟨declaration.unitName, (schema.strip found.item).tokens ++ declaration.tokens⟩

/-- The members of an enumeration, and its declaration or what is wrong with it. -/
def resolve (host : Host) (found : Found) : List Member × Except Fault Declaration :=
  Declaration.resolve host found.item found.fullName found.options

/-- The unit of an enumeration, or what is wrong with it. -/
def outcome (host : Host) (found : Found) : Outcome :=
  match (found.resolve host).2 with
  | .ok declaration => .ok (found.unit host.schema declaration)
  | .error fault => .error ⟨found.fullName, fault⟩

/-- The last event of an enumeration. -/
def closing (found : Found) : Except Fault Declaration → Event
  | .ok declaration => .generatingWrapper declaration
  | .error (.invalid problem) => .invalidDeclaration found.fullName problem
  | .error (.panicked panic) => .generatorPanicked found.fullName panic

/-- What is logged of an enumeration: its members, and then what becomes of it. -/
def events (host : Host) (found : Found) : List Event :=
  let resolved := found.resolve host
  resolved.1.map Event.resolvedMember ++ [found.closing resolved.2]

end Found

namespace Host

/-- Generates the wrappers of a file. Only a panic during the scan is not contained. -/
def generate (host : Host) (file : SourceFile) : Except Panic Generation :=
  match host.found file with
  | .error panic => .error panic
  | .ok found =>
    .ok {
      schema := host.schema
      outcomes := found.map (Found.outcome host)
      events := .registeredSchema host.schema ::
        found.map (fun entry => .foundEnumeration entry.fullName) ++
        found.flatMap (Found.events host) }

end Host

end ValuedEnum
