import ValuedEnum.Source.Path

/-!
# Attributes

An attribute is a path that stands alone, in front of a list of tokens, or in front of a value.
-/

namespace ValuedEnum

/-- What follows the path of an attribute. -/
inductive AttributeBody where
  | bare
  | list (delimiter : Delimiter) (content : TokenStream) (span : Span)
  | assigned (equals : Span) (value : TokenStream)
deriving Repr, Inhabited

namespace AttributeBody

/-- The tokens behind the path of an attribute. -/
def tokens : AttributeBody → TokenStream
  | bare => []
  | list delimiter content span => [.group delimiter content span]
  | assigned equals value => .punct '=' .alone equals :: value

end AttributeBody

/-- An attribute in front of what it belongs to. -/
structure Attribute where
  pound : Span
  brackets : Span
  path : Path
  body : AttributeBody
deriving Repr, Inhabited

namespace Attribute

/-- What stands between the brackets. -/
def content (attr : Attribute) : TokenStream := attr.path.tokens ++ attr.body.tokens

/-- The tokens of an attribute. -/
def tokens (attr : Attribute) : TokenStream :=
  [.punct '#' .alone attr.pound, .group .bracket attr.content attr.brackets]

end Attribute

end ValuedEnum
