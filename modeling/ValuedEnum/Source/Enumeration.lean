import ValuedEnum.Source.Attribute
import ValuedEnum.Source.Expr
import ValuedEnum.Source.Visibility

/-!
# Enumerations

An enumeration with its attributes, and its variants in order. Of generics, constraints and fields
only the tokens matter.
-/

namespace ValuedEnum

/-- A value given to a variant: where its `=` stands, and the expression behind it. -/
structure Discriminant where
  equals : Span
  value : Expr
deriving Repr, Inhabited

/-- A variant of an enumeration. -/
structure Variant where
  attributes : List Attribute
  ident : Ident
  /-- The group of the fields; a variant without one is a unit. -/
  fields : Option TokenTree
  discriminant : Option Discriminant
deriving Repr, Inhabited

namespace Variant

/-- The tokens of a variant. -/
def tokens (variant : Variant) : TokenStream :=
  variant.attributes.flatMap Attribute.tokens ++ .ident variant.ident :: variant.fields.toList ++
    match variant.discriminant with
    | some discriminant => .punct '=' .alone discriminant.equals :: discriminant.value.tokens
    | none => []

end Variant

/-- An enumeration as it is written. -/
structure EnumItem where
  attributes : List Attribute
  visibility : Visibility
  ident : Ident
  generics : TokenStream
  constraints : TokenStream
  braces : Span
  variants : List Variant
  /-- Whether a comma follows the last variant. -/
  trailing : Bool
deriving Repr, Inhabited

namespace EnumItem

/-- The tokens of some variants with commas between them, perhaps with one behind the last of
them. -/
def variantTokens (trailing : Bool) : List Variant → TokenStream
  | [] => []
  | [variant] => variant.tokens ++ if trailing then TokenStream.sign "," else []
  | variant :: next :: rest =>
    variant.tokens ++ TokenStream.sign "," ++ variantTokens trailing (next :: rest)

/-- The tokens of an enumeration. -/
def tokens (item : EnumItem) : TokenStream :=
  item.attributes.flatMap Attribute.tokens ++ item.visibility.tokens ++ TokenStream.word "enum" ++
    .ident item.ident :: item.generics ++ item.constraints ++
    [.group .brace (variantTokens item.trailing item.variants) item.braces]

end EnumItem

end ValuedEnum
