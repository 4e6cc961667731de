import ValuedEnum.Token.Basic

/-!
# What can be wrong with a source

Every fault found in a source text has a cause and the span it is reported at. The wording of all
causes is here.
-/

namespace ValuedEnum

/-- What a reader was looking for. -/
inductive Expectation where
  | identifier
  | lifetime
  | literal
  | booleanLiteral
  | stringLiteral
  | integerLiteral
  | expression
  | pathSegment
  | delimiter
  | delimited (delimiter : Delimiter)
  | symbol (text : String)
  | either (first second : Expectation)
  | oneOf (choices : List Expectation)
  | phrase (text : String)
deriving Repr, Inhabited

namespace Expectation

/-- What a pair of delimiters is called. -/
def delimiterName : Delimiter → String
  | .parenthesis => "parentheses"
  | .brace => "curly braces"
  | .bracket => "square brackets"
  | .invisible => "invisible group"

mutual

/-- What an expectation is called. -/
def name : Expectation → String
  | identifier => "identifier"
  | lifetime => "lifetime"
  | literal => "literal"
  | booleanLiteral => "boolean literal"
  | stringLiteral => "string literal"
  | integerLiteral => "integer literal"
  | expression => "an expression"
  | pathSegment => "path segment after `::`"
  | delimiter => "delimiter"
  | delimited kind => delimiterName kind
  | symbol text => "`" ++ text ++ "`"
  | either first second => first.name ++ " or " ++ second.name
  | oneOf choices => "one of: " ++ ", ".intercalate (names choices)
  | phrase text => text

/-- What some expectations are called, in their order. -/
def names : List Expectation → List String
  | [] => []
  | choice :: rest => choice.name :: names rest

end

/-- A choice between some expectations, in the words for their number. -/
def among : List Expectation → Option Expectation
  | [] => none
  | [only] => some only
  | [first, second] => some (either first second)
  | choices => some (oneOf choices)

end Expectation

/-- What is wrong, apart from where. -/
inductive Cause where
  /-- The text is no sequence of tokens. -/
  | unreadable
  | expected (what : Expectation) (atEnd : Bool)
  /-- A word that is reserved stands where a name belongs. -/
  | keyword (word : String)
  /-- Tokens are left over in front of the end of their scope. -/
  | unexpected (scope : Delimiter)
  | unexpectedEnd
  | remark (text : String) (atEnd : Bool)
  | stringSuffix (suffix : String)
  | argumentsMissing (path : String)
  | parenthesesMissing (path : String)
  | wrapperNameMissing
  | unknownArgument
  | duplicateArgument
  | notALiteral
  | notSigned
  | notAnIntegerSuffix
  | notAFloatSuffix
  | unsupportedLiteral
  | notAList
  | noVariants
  | notAUnitVariant
  /-- A host refused the declaration for a reason of its own. -/
  | refused (reason : String)
deriving Repr, Inhabited

namespace Cause

/-- A fault at the end of a scope says so first. -/
def located (atEnd : Bool) (text : String) : String :=
  if atEnd then "unexpected end of input, " ++ text else text

/-- The text for what is wrong. -/
def message : Cause → String
  | unreadable => "cannot parse string into token stream"
  | expected what atEnd => located atEnd ("expected " ++ what.name)
  | keyword word => "expected identifier, found keyword `" ++ word ++ "`"
  | unexpected .parenthesis => "unexpected token, expected `)`"
  | unexpected .brace => "unexpected token, expected `\x7d`"
  | unexpected .bracket => "unexpected token, expected `]`"
  | unexpected .invisible => "unexpected token"
  | unexpectedEnd => "unexpected end of input"
  | remark text atEnd => located atEnd text
  | stringSuffix suffix => "unexpected suffix `" ++ suffix ++ "` on string literal"
  | argumentsMissing path =>
    "expected attribute arguments in parentheses: #[" ++ path ++ "(...)]"
  | parenthesesMissing path => "expected parentheses: #[" ++ path ++ "(...)]"
  | wrapperNameMissing => "expected wrapper name"
  | unknownArgument => "expected `convert_ordinal` or `throw_on_cast_failure`"
  | duplicateArgument => "duplicate argument"
  | notALiteral => "expected literal"
  | notSigned => "expected signed literal"
  | notAnIntegerSuffix => "expected integer suffix"
  | notAFloatSuffix => "expected float suffix"
  | unsupportedLiteral => "unsupported literal"
  | notAList => "expected list"
  | noVariants => "expected variants"
  | notAUnitVariant => "expected unit variant"
  | refused reason => reason

end Cause

/-- A fault of a source text. -/
structure Problem where
  cause : Cause
  span : Span
deriving Repr, Inhabited

/-- The text for a problem. -/
def Problem.message (problem : Problem) : String := problem.cause.message

end ValuedEnum
