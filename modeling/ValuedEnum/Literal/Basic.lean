import ValuedEnum.Token.Lexer

/-!
# Literals

A literal is known by its text: what it denotes, and the suffix behind it, are read off the text.
Digits without a point and without an exponent are an integer, whatever their suffix is.
-/

namespace ValuedEnum

open Lexer Text

/-- What a literal is, as far as its text says so. -/
inductive LitKind where
  | string (content : List Char) (suffix : List Char)
  | byteString
  | cString
  | byte
  | char
  | bool (value : Bool)
  | integer (value : Nat) (suffix : List Char)
  | float (suffix : List Char)
  | other
deriving DecidableEq, Repr, Inhabited

namespace LitKind

/-- Whether the text behind an `e` makes a float of the digits in front of it. -/
def exponentFollows : (digits : Bool) → List Char → Bool
  | digits, [] => digits
  | digits, c :: rest =>
    if c = '_' then exponentFollows digits rest
    else if c = '-' || c = '+' then true
    else if c.isDigit then exponentFollows true rest
    else digits && isIdentifier (c :: rest)

/-- The digits of an integer: their value, whether there are any, and what follows them. `none` if
the digits belong to a float or do not fit the base. -/
def digits? (base : Nat) : (value : Nat) → (seen : Bool) → List Char →
    Option (Nat × Bool × List Char)
  | value, seen, [] => some (value, seen, [])
  | value, seen, c :: rest =>
    if c = '_' then digits? base value seen rest
    else if base = 10 && c = '.' then none
    else if base = 10 && (c = 'e' || c = 'E') then
      if exponentFollows false rest then none else some (value, seen, c :: rest)
    else
      match hexValue? c with
      | none => some (value, seen, c :: rest)
      | some digit =>
        if c.isDigit || 10 < base then
          if digit < base then digits? base (value * base + digit) true rest else none
        else some (value, seen, c :: rest)

/-- A suffix is empty or a word. -/
def isSuffix (text : List Char) : Bool := text.isEmpty || isIdentifier text

/-- The number and the suffix of an integer literal. -/
def integer? (text : List Char) : Option LitKind :=
  let read :=
    match text with
    | '0' :: 'x' :: rest => digits? 16 0 false rest
    | '0' :: 'o' :: rest => digits? 8 0 false rest
    | '0' :: 'b' :: rest => digits? 2 0 false rest
    | _ => digits? 10 0 false text
  match read with
  | some (value, true, suffix) => if isSuffix suffix then some (.integer value suffix) else none
  | _ => none

/-- What a reader has seen of a float. -/
structure FloatParts where
  point : Bool := false
  mark : Bool := false
  sign : Bool := false
  exponent : Bool := false

/-- The suffix of a float. -/
def floatSuffix? : FloatParts → List Char → Option (List Char)
  | parts, [] => if parts.mark && !parts.exponent then none else some []
  | parts, c :: rest =>
    let suffix : Option (List Char) :=
      if parts.mark && !parts.exponent then none else some (c :: rest)
    if c = '_' then floatSuffix? parts rest
    else if c.isDigit then
      floatSuffix? { parts with exponent := parts.exponent || parts.mark } rest
    else if c = '.' then
      if parts.mark || parts.point then none else floatSuffix? { parts with point := true } rest
    else if c = 'e' || c = 'E' then
      match (rest.dropWhile (· = '_')).head? with
      | none => suffix
      | some d =>
        if !(d = '-' || d = '+' || d.isDigit) then suffix
        else if !parts.mark then floatSuffix? { parts with mark := true } rest
        else if parts.exponent then suffix
        else none
    else if c = '-' || c = '+' then
      if parts.sign || parts.exponent || !parts.mark then none
      else floatSuffix? { parts with sign := true } rest
    else suffix

/-- The suffix of a float literal. -/
def float? (text : List Char) : Option LitKind :=
  match floatSuffix? {} text with
  | some suffix => if isSuffix suffix then some (.float suffix) else none
  | none => none

/-- An integer literal, or else a float literal. -/
def number? (text : List Char) : Option LitKind :=
  match integer? text with
  | some kind => some kind
  | none => float? text

/-- The kind of a literal with a given text. -/
def ofText (text : List Char) : LitKind :=
  if text = ['t', 'r', 'u', 'e'] then bool true
  else if text = ['f', 'a', 'l', 's', 'e'] then bool false
  else
    match quoted? text with
    | some ⟨.text, length, content⟩ => string content (text.drop length)
    | some ⟨.bytes, _, _⟩ => byteString
    | some ⟨.cText, _, _⟩ => cString
    | none =>
      match single? text with
      | some (.bytes, _) => byte
      | some _ => char
      | none =>
        match text with
        | c :: _ => if c.isDigit then (number? text).getD other else other
        | [] => other

end LitKind

/-- A literal as written; the truth values are words. -/
structure Lit where
  text : String
  span : Span
deriving DecidableEq, Repr, Inhabited

namespace Lit

/-- What a literal is. -/
def kind (lit : Lit) : LitKind := .ofText lit.text.toList

/-- Whether a literal may stand behind a minus sign. -/
def isNumber (lit : Lit) : Bool :=
  match lit.kind with
  | .integer .. | .float .. => true
  | _ => false

/-- The token of a literal; a truth value is a word. -/
def token (lit : Lit) : TokenTree :=
  match lit.kind with
  | .bool _ => .ident ⟨lit.text, lit.span⟩
  | _ => .literal lit.text lit.span

/-- The token of a literal, as a stream. -/
def tokens (lit : Lit) : TokenStream := [lit.token]

end Lit

end ValuedEnum
