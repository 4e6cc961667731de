import ValuedEnum.Token.Lexer.Quoted

/-!
# Number literals

How far a number literal reaches. A point belongs to a number unless another point or a word
follows it; an exponent needs a digit, and a word directly behind the digits is a suffix.
-/

namespace ValuedEnum.Lexer

open Text

/-- Whether a character may stand among decimal digits. -/
def isDigitOrGap (c : Char) : Bool := c.isDigit || c == '_'

/-- The length of an exponent behind its `e`. -/
def exponentLength? : (signed : Bool) → List Char → Option Nat
  | _, [] => none
  | signed, c :: rest =>
    if c = '+' || c = '-' then
      if signed then none else (exponentLength? true rest).map (· + 1)
    else if c.isDigit then some (1 + (rest.takeWhile isDigitOrGap).length)
    else if c = '_' then (exponentLength? signed rest).map (· + 1)
    else none

/-- What follows the digits of a float: `whole` characters were read, and they are a float on their
own if there was a point. -/
def floatTail? (whole : Nat) (pointed : Bool) (rest : List Char) : Option Nat :=
  let alone : Option Nat := if pointed then some whole else none
  match rest with
  | c :: rest =>
    if c = 'e' || c = 'E' then
      match exponentLength? false rest with
      | some length => some (whole + 1 + length)
      | none => alone
    else alone
  | [] => alone

/-- The length of a float without its suffix. -/
def floatDigits? (text : List Char) : Option Nat :=
  match text with
  | c :: _ =>
    if c.isDigit then
      let whole := (text.takeWhile isDigitOrGap).length
      match text.drop whole with
      | '.' :: rest =>
        match rest with
        | d :: _ =>
          if d = '.' || isIdentifierStart d then none
          else
            let fraction := (rest.takeWhile isDigitOrGap).length
            floatTail? (whole + 1 + fraction) true (rest.drop fraction)
        | [] => some (whole + 1)
      | rest => floatTail? whole false rest
    else none
  | [] => none

/-- The number of digits and gaps that follow a base; a decimal number may not start with a gap. -/
def digitsLength? (base : Nat) : (empty : Bool) → List Char → Option Nat
  | empty, [] => if empty then none else some 0
  | empty, c :: rest =>
    match hexValue? c with
    | some digit =>
      if digit < base then (digitsLength? base false rest).map (· + 1)
      else if c.isDigit || empty then none
      else some 0
    | none =>
      if c = '_' then
        if empty && base == 10 then none else (digitsLength? base empty rest).map (· + 1)
      else if empty then none else some 0

/-- The length of an integer without its suffix. -/
def intDigits? : List Char → Option Nat
  | '0' :: 'x' :: rest => (digitsLength? 16 true rest).map (· + 2)
  | '0' :: 'o' :: rest => (digitsLength? 8 true rest).map (· + 2)
  | '0' :: 'b' :: rest => (digitsLength? 2 true rest).map (· + 2)
  | text => digitsLength? 10 true text

/-- A number with its suffix; no part of a word may follow. -/
def withSuffix? (text : List Char) (digits : Nat) : Option Nat :=
  let length := digits + (identifierLength? (text.drop digits)).getD 0
  match text.drop length with
  | c :: _ => if isIdentifierPart c then none else some length
  | [] => some length

/-- The length of the number that a text starts with. -/
def numberLength? (text : List Char) : Option Nat :=
  match (floatDigits? text).bind (withSuffix? text) with
  | some length => some length
  | none => (intDigits? text).bind (withSuffix? text)

end ValuedEnum.Lexer
