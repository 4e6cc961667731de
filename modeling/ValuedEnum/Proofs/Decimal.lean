import ValuedEnum.Literal.Ordinal
import ValuedEnum.Proofs.Values

/-!
# Decimal numbers

Ordinals are written in decimal digits without a suffix. Such digits are read as an integer literal
again, and its value is the number that was written.
-/

namespace ValuedEnum

namespace LitKind

/-- A decimal digit counts, and it is none of the characters that end the digits. -/
theorem hexValue?_of_isDigit {c : Char} (h : c.isDigit = true) :
    Lexer.hexValue? c = some (c.toNat - '0'.toNat) ∧ c.toNat - '0'.toNat < 10 ∧
      c ≠ '_' ∧ c ≠ '.' ∧ c ≠ 'e' ∧ c ≠ 'E' := by
  have hrange := Char.isDigit_iff_toNat.mp h
  refine ⟨by simp [Lexer.hexValue?, h], ?_, ?_⟩
  · have hzero : '0'.toNat = 48 := rfl
    have hnine : '9'.toNat = 57 := rfl
    omega
  · refine ⟨?_, ?_, ?_, ?_⟩ <;> rintro rfl <;> simp at h

/-- Decimal digits have the value that their positions give them. -/
theorem digits?_of_isDigit {text : List Char} (h : ∀ c ∈ text, c.isDigit = true) (value : Nat)
    (seen : Bool) :
    digits? 10 value seen text =
      some (Nat.ofDigitChars 10 text value, seen || !text.isEmpty, []) := by
  induction text generalizing value seen with
  | nil => simp [digits?]
  | cons c rest ih =>
    obtain ⟨hc, hrest⟩ := List.forall_mem_cons.mp h
    obtain ⟨hvalue, hlt, hgap, hpoint, hlower, hupper⟩ := hexValue?_of_isDigit hc
    simp only [digits?, hgap, hpoint, hlower, hupper, hvalue, hc, hlt, if_false, if_true,
      decide_false, decide_true, Bool.and_false, Bool.or_false, Bool.false_eq_true, Bool.true_or,
      ih hrest, Nat.ofDigitChars_cons, Nat.mul_comm 10]
    simp

/-- Decimal digits are no quoted literal. -/
theorem quoted?_of_isDigit {c : Char} (h : c.isDigit = true) (rest : List Char) :
    Lexer.quoted? (c :: rest) = none ∧ Lexer.single? (c :: rest) = none := by
  constructor
  · unfold Lexer.quoted?
    split <;> simp_all
  · unfold Lexer.single?
    split <;> simp_all

/-- Decimal digits are an integer of base ten: no letter of another base is among them. -/
theorem integer?_of_isDigit {text : List Char} (hne : text ≠ [])
    (h : ∀ c ∈ text, c.isDigit = true) :
    integer? text = some (.integer (Nat.ofDigitChars 10 text 0) []) := by
  have hdigits := digits?_of_isDigit h 0 false
  unfold integer?
  split
  · simp at h
  · simp at h
  · simp at h
  · have hempty : text.isEmpty = false := by simpa using hne
    simp [hdigits, hempty, isSuffix]

/-- A text that starts with a digit is a number or nothing. -/
theorem ofText_of_front {c : Char} (h : c.isDigit = true) (rest : List Char) :
    ofText (c :: rest) = (number? (c :: rest)).getD other := by
  obtain ⟨hquoted, hsingle⟩ := quoted?_of_isDigit h rest
  have htrue : c :: rest ≠ ['t', 'r', 'u', 'e'] := by
    intro heq
    obtain ⟨rfl, _⟩ := List.cons.inj heq
    simp at h
  have hfalse : c :: rest ≠ ['f', 'a', 'l', 's', 'e'] := by
    intro heq
    obtain ⟨rfl, _⟩ := List.cons.inj heq
    simp at h
  simp only [ofText, if_neg htrue, if_neg hfalse, hquoted, hsingle, if_pos h]

/-- Decimal digits are an integer literal without a suffix. -/
theorem ofText_of_isDigit {text : List Char} (hne : text ≠ []) (h : ∀ c ∈ text, c.isDigit = true) :
    ofText text = .integer (Nat.ofDigitChars 10 text 0) [] := by
  have hinteger := integer?_of_isDigit hne h
  obtain ⟨c, rest, rfl⟩ := List.exists_cons_of_ne_nil hne
  have hc : c.isDigit = true := h c List.mem_cons_self
  rw [ofText_of_front hc, number?, hinteger]
  rfl

/-- The digits of a number are an integer literal with its value. -/
theorem ofText_toString (n : Nat) : ofText (toString n).toList = .integer n [] := by
  have hdigits : ∀ c ∈ Nat.toDigits 10 n, c.isDigit = true := fun c hc =>
    Nat.isDigit_of_mem_toDigits (by omega) (by omega) hc
  rw [Nat.toString_eq_ofList_toDigits, String.toList_ofList,
    ofText_of_isDigit Nat.toDigits_ne_nil hdigits, Nat.ofDigitChars_ten_toDigits]

end LitKind

namespace Ordinal

open TokenStream

/-- The digits of a number denote the number. -/
theorem magnitude?_toString (n : Nat) : integer?.magnitude? (toString n) = some (n : Int) := by
  rw [integer?.magnitude?, LitKind.ofText_toString]

/-- The digits of a number stand for it. -/
@[simp] theorem integer?_digits (n : Nat) : integer? (digits n) = some (n : Int) :=
  magnitude?_toString n

/-- The digits of a number behind a minus sign stand for its negation. -/
@[simp] theorem integer?_minus_digits (n : Nat) :
    integer? (sign "-" ++ digits n) = some (-(n : Int)) := by
  change (integer?.magnitude? (toString n)).map (- ·) = _
  rw [magnitude?_toString, Option.map_some]

end Ordinal

end ValuedEnum
