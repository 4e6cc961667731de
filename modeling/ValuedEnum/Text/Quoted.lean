import ValuedEnum.Text.Property.GraphemeExtend
import ValuedEnum.Text.Property.Unprintable
import ValuedEnum.Text.Identifier

/-!
# Quoting a text as a string literal

Quotes, backslashes and line breaks are escaped, and so is every character that would not be
visible on its own.
-/

namespace ValuedEnum.Text

/-- The lower case hexadecimal digits of a number. -/
def hexadecimal (n : Nat) : List Char := Nat.toDigits 16 n

/-- The escape of a character by its code. -/
def unicodeEscape (c : Char) : List Char :=
  ['\\', 'u', '\x7b'] ++ hexadecimal c.toNat ++ ['\x7d']

/-- The escaped form of a character; single quotes stay as they are. -/
def escapeChar (c : Char) : List Char :=
  if c = '\t' then ['\\', 't']
  else if c = '\r' then ['\\', 'r']
  else if c = '\n' then ['\\', 'n']
  else if c = '\x22' then ['\\', '\x22']
  else if c = '\\' then ['\\', '\\']
  else if inRanges graphemeExtendRanges c || inRanges unprintableRanges c then unicodeEscape c
  else [c]

/-- A NUL is two characters long unless a digit behind it would make it an octal escape. -/
def escape : List Char → List Char
  | [] => []
  | c :: rest =>
    if c.toNat = 0 then
      match rest with
      | d :: _ => (if '0' ≤ d && d ≤ '7' then ['\\', 'x', '0', '0'] else ['\\', '0']) ++ escape rest
      | [] => ['\\', '0']
    else escapeChar c ++ escape rest

/-- The string literal that denotes a text. -/
def quote (text : List Char) : List Char := '\x22' :: escape text ++ ['\x22']

end ValuedEnum.Text
