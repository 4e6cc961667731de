import ValuedEnum.Grammar.Parser

/-!
# Options of a wrapper

What the attribute of an enumeration asks for: the name of the wrapper, a word or the text of a
string literal, and up to two flags in any order.
-/

namespace ValuedEnum

/-- What the attribute of an enumeration asks for. -/
structure WrapperOptions where
  name : Ident
  /-- Whether the wrapper converts to and from the ordinal. -/
  convertOrdinal : Bool
  /-- Whether a failed conversion is an error instead of the default value. -/
  throwOnCastFailure : Bool
deriving DecidableEq, Repr, Inhabited

namespace WrapperOptions

/-- The flags that were given so far. -/
structure Flags where
  convertOrdinal : Option Bool
  throwOnCastFailure : Option Bool
deriving DecidableEq, Repr, Inhabited

namespace Flags

/-- No flags. -/
def none : Flags := ⟨.none, .none⟩

/-- The flags with one more; each key may be given once. -/
def set (flags : Flags) (key : Ident) (value : Bool) : Except Problem Flags :=
  if key.text = "convert_ordinal" then
    if flags.convertOrdinal.isSome then .error ⟨.duplicateArgument, key.span⟩
    else .ok { flags with convertOrdinal := some value }
  else if key.text = "throw_on_cast_failure" then
    if flags.throwOnCastFailure.isSome then .error ⟨.duplicateArgument, key.span⟩
    else .ok { flags with throwOnCastFailure := some value }
  else .error ⟨.unknownArgument, key.span⟩

end Flags

/-- The word that a string literal denotes. A text that is no sequence of tokens is reported at its
own position; whatever else is wrong inside of the literal is reported at the literal. -/
def nameOf (lit : Lit) (content suffix : List Char) : Except Problem Ident :=
  match TokenStream.ofChars content with
  | .error problem => .error problem
  | .ok tokens =>
    match Parser.name.run ⟨lit.span, .invisible⟩ (TokenTree.withSpanAll lit.span tokens) with
    | .error problem => .error problem
    | .ok ident =>
      if suffix.isEmpty then .ok ident
      else .error ⟨.stringSuffix (String.ofList suffix), lit.span⟩

/-- The name of the wrapper, a word or the text of a string literal. -/
def nameParser : Parser Ident := do
  if ← Parser.sees .string then
    let lit ← Parser.literal
    match lit.kind with
    | .string content suffix => liftExcept (nameOf lit content suffix)
    | _ => Parser.expected .stringLiteral
  else Parser.name
where
  liftExcept (result : Except Problem Ident) : Parser Ident :=
    match result with
    | .ok ident => return ident
    | .error problem => throw problem

/-- A truth value. -/
def boolParser : Parser Bool := do
  match (← Parser.remaining).lit? with
  | some (lit, rest) =>
    match lit.kind with
    | .bool value =>
      Parser.advance rest lit.tokens
      return value
    | _ => Parser.expected .booleanLiteral
  | none => Parser.expected .booleanLiteral

/-- The flags behind the name, each one behind a comma; the last comma may stand alone. -/
def flagsParser : (limit : Nat) → Flags → Parser Flags
  | 0, flags => return flags
  | limit + 1, flags => do
    if ← Parser.atEnd then return flags
    let _ ← Parser.sign ","
    if ← Parser.atEnd then return flags
    let key ← Parser.name
    let _ ← Parser.sign "="
    let value ← boolParser
    match flags.set key value with
    | .ok flags => flagsParser limit flags
    | .error problem => throw problem

/-- The name of the wrapper and the flags behind it, with their defaults. -/
def parser : Parser WrapperOptions := do
  if ← Parser.atEnd then Parser.fail .wrapperNameMissing (← Parser.location)
  let name ← nameParser
  let flags ← flagsParser (TokenTree.sizeAll (← Parser.remaining) + 1) .none
  return ⟨name, flags.convertOrdinal.getD true, flags.throwOnCastFailure.getD false⟩

/-- The options that all tokens of a scope stand for. -/
def ofTokens (scope : Scope) (tokens : TokenStream) : Except Problem WrapperOptions :=
  parser.run scope tokens

end WrapperOptions

end ValuedEnum
