import ValuedEnum.Declaration

/-!
# The log of a run

What a run does is told by events. Each has a level, a message, and further fields by name.
-/

namespace ValuedEnum

/-- How much an event matters. -/
inductive Level where
  | trace
  | debug
  | info
  | warn
  | error
deriving DecidableEq, Repr, Inhabited

/-- The name of a level as it is logged. -/
def Level.text : Level → String
  | trace => "TRACE"
  | debug => "DEBUG"
  | info => "INFO"
  | warn => "WARN"
  | error => "ERROR"

/-- Something that happens in a run. -/
inductive Event where
  | registeredSchema (schema : Schema)
  | foundEnumeration (declaration : String)
  | resolvedMember (member : Member)
  | generatingWrapper (declaration : Declaration)
  | invalidDeclaration (declaration : String) (problem : Problem)
  | generatorPanicked (declaration : String) (panic : Panic)
  | wroteUnit (path : String)
  | skippedDeclaration (declaration : String)
deriving Repr, Inhabited

namespace Event

/-- The level of an event. -/
def level : Event → Level
  | registeredSchema _ => .debug
  | foundEnumeration _ => .debug
  | resolvedMember _ => .trace
  | generatingWrapper _ => .debug
  | invalidDeclaration .. => .warn
  | generatorPanicked .. => .error
  | wroteUnit _ => .debug
  | skippedDeclaration _ => .info

/-- The message of an event; a panic speaks for itself. -/
def message : Event → String
  | registeredSchema _ => "registered schema"
  | foundEnumeration _ => "found annotated enumeration"
  | resolvedMember _ => "resolved member"
  | generatingWrapper _ => "generating wrapper"
  | invalidDeclaration .. => "invalid declaration"
  | generatorPanicked _ panic => panic.message
  | wroteUnit _ => "wrote unit"
  | skippedDeclaration _ => "skipped declaration"

/-- A truth value as it is logged. -/
def truth (value : Bool) : String := if value then "true" else "false"

/-- The other fields of an event. -/
def fields : Event → List (String × String)
  | registeredSchema schema => [("wrapper", schema.wrapper), ("value", schema.value)]
  | foundEnumeration declaration => [("declaration", declaration)]
  | resolvedMember member =>
    [("variant", member.ident.text), ("ordinal", toString member.ordinal.toInt),
      ("values", toString member.values.length)]
  | generatingWrapper declaration =>
    [("unit", declaration.unitName), ("visibility", declaration.visibility.text),
      ("members", toString declaration.members.length),
      ("unified", truth declaration.types.isSome)]
  | invalidDeclaration declaration problem =>
    [("declaration", declaration), ("error", problem.message)]
  | generatorPanicked declaration _ => [("declaration", declaration)]
  | wroteUnit path => [("path", path)]
  | skippedDeclaration declaration => [("declaration", declaration)]

end Event

end ValuedEnum
