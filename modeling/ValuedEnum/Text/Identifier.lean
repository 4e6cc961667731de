import ValuedEnum.Text.Property.IdentifierStart
import ValuedEnum.Text.Property.IdentifierPart

/-!
# Blanks and identifiers

Which characters separate tokens, and which characters an identifier is made of.
-/

namespace ValuedEnum.Text

/-- Membership in a table of closed ranges. -/
def inRanges (ranges : Array (Nat × Nat)) (c : Char) : Bool :=
  ranges.any fun range => range.1 ≤ c.toNat && c.toNat ≤ range.2

/-- White space, and the two marks that set the direction of writing. -/
def isBlank (c : Char) : Bool :=
  let n := c.toNat
  n == 0x20 || (0x9 ≤ n && n ≤ 0xD) || n == 0x85 || n == 0xA0 || n == 0x1680 ||
    (0x2000 ≤ n && n ≤ 0x200A) || n == 0x200E || n == 0x200F || n == 0x2028 || n == 0x2029 ||
    n == 0x202F || n == 0x205F || n == 0x3000

/-- The underscore and the characters of XID_Start. -/
def isIdentifierStart (c : Char) : Bool :=
  c == '_' || c.isAlpha || (127 < c.toNat && inRanges identifierStartRanges c)

/-- The characters of XID_Continue. -/
def isIdentifierPart (c : Char) : Bool :=
  isIdentifierStart c || c.isDigit || (127 < c.toNat && inRanges identifierPartRanges c)

/-- One start character, then any number of parts. -/
def isIdentifier : List Char → Bool
  | [] => false
  | c :: rest => isIdentifierStart c && rest.all isIdentifierPart

/-- The number of characters of the identifier that a text starts with. -/
def identifierLength? : List Char → Option Nat
  | [] => none
  | c :: rest =>
    if isIdentifierStart c then some (1 + (rest.takeWhile isIdentifierPart).length) else none

/-- What an identifier starts with may also stand inside of it. -/
theorem isIdentifierPart_of_isIdentifierStart {c : Char} (h : isIdentifierStart c = true) :
    isIdentifierPart c = true := by
  simp [isIdentifierPart, h]

end ValuedEnum.Text
