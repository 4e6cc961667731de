import ValuedEnum.Grammar
import ValuedEnum.Literal.Ordinal
import ValuedEnum.Literal.Value
import ValuedEnum.Schema
import ValuedEnum.WrapperOptions

/-!
# Hosts

A host answers what is known of an enumeration and of its variants. It may panic instead of
answering. The usual host reads attributes.

The answers are functions of what is asked about: a host is taken to keep no state between two
questions, so that it answers the same question in the same way at any time of a run.
-/

namespace ValuedEnum

/-- What a host that panics leaves behind. -/
inductive Panic where
  | text (message : String)
  | silent
deriving DecidableEq, Repr, Inhabited

/-- The text of a panic. -/
def Panic.message : Panic → String
  | text message => message
  | silent => "unknown cause"

/-- What is asked of a host. It answers by the item or the variant alone, whatever it was asked
before. -/
structure Host where
  schema : Schema
  /-- The options of the wrapper, or nothing for an enumeration without one. -/
  wrapperOptions : EnumItem → Except Panic (Option (Except Problem WrapperOptions))
  /-- The values of a variant, or nothing for a variant that is not tagged. A host that makes values
  of its own can give a number no other type than those of `ValueType`. -/
  variantValues : Variant → Except Panic (Option (Except Problem (List Value)))
  /-- The ordinal that is given to a variant. -/
  initializer : Variant → Except Panic (Option Int64)

namespace Host

/-- The ordinal that the source gives to a variant, if it is a literal. -/
def literalInitializer (variant : Variant) : Option Int64 :=
  variant.discriminant.bind fun discriminant => Ordinal.ofExpr? discriminant.value

/-- The arguments of an attribute, which must be a list. -/
def attributeArguments (attr : Attribute) (read : Scope → TokenStream → Except Problem α) :
    Except Problem α :=
  match attr.body with
  | .bare =>
    .error ⟨.argumentsMissing attr.path.text, attr.path.first.span.through attr.path.last.span⟩
  | .assigned equals _ => .error ⟨.parenthesesMissing attr.path.text, equals⟩
  | .list _ content span => read ⟨span.last, .invisible⟩ content

/-- The values that an attribute holds. -/
def attributeValues (attr : Attribute) : Except Problem (List Value) :=
  match attr.body with
  | .bare => .ok []
  | .assigned .. => .error ⟨.notAList, attr.content.span⟩
  | .list _ content span => do
    Value.ofExprs (← Grammar.exprs ⟨span.last, .invisible⟩ content)

/-- The host that reads the attributes named by a schema, the first one of each kind. -/
def ofSchema (schema : Schema) : Host where
  schema := schema
  wrapperOptions item :=
    .ok ((item.attributes.find? schema.isWrapper).map fun attr =>
      attributeArguments attr WrapperOptions.ofTokens)
  variantValues variant := .ok ((variant.attributes.find? schema.isValue).map attributeValues)
  initializer variant := .ok (literalInitializer variant)

end Host

end ValuedEnum
