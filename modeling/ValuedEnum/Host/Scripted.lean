import ValuedEnum.Host

/-!
# Scripted hosts

A host whose answers are written down by the names of enumerations and variants.
-/

namespace ValuedEnum

/-- What a scripted host answers. -/
structure Script where
  schema : Schema
  /-- The enumerations without a wrapper. -/
  ignored : List String
  /-- The enumerations at which the host panics. -/
  unknown : List String
  /-- What a wrapper's name has behind the name of its enumeration. -/
  suffix : String
  convertOrdinal : Bool
  throwOnCastFailure : Bool
  /-- The variants at which the host panics: with a text, with a text that names the variant, and
  without a text. -/
  panicText : List String
  panicNamed : List String
  panicSilent : List String
  rejected : List String
  /-- The expressions of the tagged variants. -/
  values : List (String × List String)
  /-- The ordinals of the variants, if the host decides about them. -/
  initializers : Option (List (String × Option Int64))
deriving Repr, Inhabited

namespace Script

/-- The name of the wrapper of an enumeration. -/
def wrapperName (script : Script) (ident : Ident) : Ident :=
  ⟨ident.bare ++ script.suffix, ident.span⟩

/-- The answer for an enumeration. -/
def wrapperOptions (script : Script) (item : EnumItem) :
    Except Panic (Option (Except Problem WrapperOptions)) :=
  let name := item.ident.text
  if script.ignored.contains name then .ok none
  else if script.unknown.contains name then .error (.text ("no arguments for " ++ name))
  else
    .ok (some (.ok
      ⟨script.wrapperName item.ident, script.convertOrdinal, script.throwOnCastFailure⟩))

/-- The value that a text denotes. -/
def value (text : String) : Except Problem Value := do
  Value.ofExpr (← Grammar.expr .whole (← TokenStream.ofText text))

/-- The values that some texts stand for, or the problem of the first one that stands for none. -/
def valuesOf : List String → Except Problem (List Value)
  | [] => .ok []
  | text :: rest => do
    let first ← value text
    return first :: (← valuesOf rest)

/-- The answer for a variant. -/
def variantValues (script : Script) (variant : Variant) :
    Except Panic (Option (Except Problem (List Value))) :=
  let name := variant.ident.text
  if script.panicText.contains name then .error (.text "unsupported variant")
  else if script.panicNamed.contains name then .error (.text ("unsupported variant " ++ name))
  else if script.panicSilent.contains name then .error .silent
  else if script.rejected.contains name then
    .ok (some (.error ⟨.refused "rejected by host", variant.ident.span⟩))
  else .ok ((script.values.lookup name).map valuesOf)

/-- The ordinal that a variant is given. -/
def initializer (script : Script) (variant : Variant) : Option Int64 :=
  match script.initializers with
  | some given => (given.lookup variant.ident.text).join
  | none => Host.literalInitializer variant

/-- The host that answers so. -/
def host (script : Script) : Host where
  schema := script.schema
  wrapperOptions := script.wrapperOptions
  variantValues := script.variantValues
  initializer variant := .ok (script.initializer variant)

end Script

end ValuedEnum
