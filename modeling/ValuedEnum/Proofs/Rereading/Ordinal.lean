import Mathlib.Data.List.TakeWhile
import ValuedEnum.Proofs.Discriminant
import ValuedEnum.Proofs.Rereading.Token

/-!
# Reading ordinals back

An ordinal is written as a decimal literal, behind a minus sign if it is negative and its
representation is signed. The text of these tokens is an expression again, and it stands for the
same ordinal; so no two ordinals of a representation have the same text.
-/

namespace ValuedEnum

namespace Lexer

open Text

/-- Decimal digits with nothing behind them are no float. -/
theorem floatDigits?_of_isDigit {text : List Char} (h : ∀ c ∈ text, c.isDigit = true) :
    floatDigits? text = none := by
  have hall : ∀ c ∈ text, isDigitOrGap c = true := fun c hc => by simp [isDigitOrGap, h c hc]
  have hwhole : text.takeWhile isDigitOrGap = text := List.takeWhile_eq_self_iff.mpr hall
  unfold floatDigits?
  split
  · simp only [hwhole, List.drop_length]
    simp [floatTail?]
  · rfl

/-- Decimal digits are read to their end. -/
theorem digitsLength?_of_isDigit {text : List Char} (h : ∀ c ∈ text, c.isDigit = true)
    (empty : Bool) (hempty : empty = true → text ≠ []) :
    digitsLength? 10 empty text = some text.length := by
  induction text generalizing empty with
  | nil =>
    have hsome : empty = false := by simpa using hempty
    simp [digitsLength?, hsome]
  | cons c rest ih =>
    obtain ⟨hc, hrest⟩ := List.forall_mem_cons.mp h
    obtain ⟨hvalue, hlt, _⟩ := LitKind.hexValue?_of_isDigit hc
    simp only [digitsLength?, hvalue, if_pos hlt, ih hrest false (by simp), Option.map_some,
      List.length_cons]

/-- Digits alone are an integer as a whole. -/
theorem intDigits?_of_isDigit {text : List Char} (hne : text ≠ [])
    (h : ∀ c ∈ text, c.isDigit = true) : intDigits? text = some text.length := by
  unfold intDigits?
  split
  · simp at h
  · simp at h
  · simp at h
  · exact digitsLength?_of_isDigit h true fun _ => hne

/-- Decimal digits with nothing behind them are one literal. -/
theorem literalLength?_of_isDigit {text : List Char} (hne : text ≠ [])
    (h : ∀ c ∈ text, c.isDigit = true) : literalLength? text = some text.length := by
  have hnumber : numberLength? text = some text.length := by
    have hsuffix : withSuffix? text text.length = some text.length := by
      simp [withSuffix?, identifierLength?]
    simp [numberLength?, floatDigits?_of_isDigit h, intDigits?_of_isDigit hne h, hsuffix]
  obtain ⟨c, rest, rfl⟩ := List.exists_cons_of_ne_nil hne
  obtain ⟨hquoted, hsingle⟩ := LitKind.quoted?_of_isDigit (h c List.mem_cons_self) rest
  simp only [literalLength?, hquoted, hsingle, hnumber]

/-- The digits of a number are a literal as a whole. -/
theorem literalLength?_toString (n : Nat) :
    literalLength? (toString n).toList = some (toString n).toList.length := by
  rw [Nat.toString_eq_ofList_toDigits, String.toList_ofList]
  exact literalLength?_of_isDigit Nat.toDigits_ne_nil fun c hc =>
    Nat.isDigit_of_mem_toDigits (by omega) (by omega) hc

end Lexer

namespace Ordinal

/-- The digits of a number are read as the number. -/
theorem magnitude?_digits (attributes : TokenStream) (n : Nat) (span : Span) :
    (Expr.literal attributes ⟨toString n, span⟩).magnitude? = some n := by
  rw [Expr.magnitude?, Lit.kind, LitKind.ofText_toString]

/-- The digits of a number are read back as the number. -/
theorem integer?_reread_digits (n : Nat) :
    ∃ expr, Expr.ofText (digits n).text = .ok expr ∧ expr.integer? = some (n : Int) := by
  have htext : (digits n).text = toString n := String.ofList_toList
  obtain ⟨span, hexpr⟩ := Expr.ofText_literal (Lexer.literalLength?_toString n)
  refine ⟨_, (congrArg Expr.ofText htext).trans hexpr, ?_⟩
  rw [Expr.integer?, magnitude?_digits]
  · rfl
  · simp
  · simp

/-- The digits of a number behind a minus sign are read back as its negation. -/
theorem integer?_reread_minus_digits (n : Nat) :
    ∃ expr, Expr.ofText (TokenStream.sign "-" ++ digits n).text = .ok expr ∧
      expr.integer? = some (-(n : Int)) := by
  have htext : (TokenStream.sign "-" ++ digits n).text = "- " ++ toString n := by
    rw [← String.toList_inj]
    simp [TokenStream.text, TokenStream.sign, TokenStream.signs, digits, TokenTree.charsAll,
      TokenTree.chars, TokenTree.gap]
  obtain ⟨sign, span, hexpr⟩ := Expr.ofText_minus_literal (Lexer.literalLength?_toString n)
  refine ⟨_, (congrArg Expr.ofText htext).trans hexpr, ?_⟩
  rw [Expr.integer?, magnitude?_digits]
  rfl

/-- An ordinal is read back as the integer that it is in its type. -/
theorem integer?_reread_tokens (repr : IntegerType) (ordinal : Int64) :
    ∃ expr, Expr.ofText (tokens repr ordinal).text = .ok expr ∧
      expr.integer? = some (valueIn repr ordinal) := by
  unfold tokens valueIn
  cases repr.isUnsigned with
  | true => exact integer?_reread_digits _
  | false =>
    simp only [Bool.false_eq_true, if_false, Int64.lt_iff_toInt_lt, Int64.toInt_zero]
    split
    · have hvalue : ordinal.toInt = -(ordinal.toInt.natAbs : Int) := by omega
      rw [hvalue, Int.natAbs_neg, Int.natAbs_natCast]
      exact integer?_reread_minus_digits _
    · have hvalue : ordinal.toInt = (ordinal.toInt.natAbs : Int) := by omega
      rw [hvalue, Int.natAbs_natCast]
      exact integer?_reread_digits _

/-- The integer that a word is in a type is congruent to the word. -/
theorem ofInt_valueIn (repr : IntegerType) (ordinal : Int64) :
    Int64.ofInt (valueIn repr ordinal) = ordinal := by
  unfold valueIn
  cases repr.isUnsigned with
  | true =>
    refine Int64.toBitVec.inj ?_
    rw [if_pos rfl, Int64.toBitVec_ofInt, BitVec.ofInt_natCast, ← Int64.toNat_toBitVec,
      BitVec.ofNat_toNat, BitVec.setWidth_eq]
  | false => simp

/-- Without its sign, the integer that a word is in a type is below 2^64. -/
theorem natAbs_valueIn_lt (repr : IntegerType) (ordinal : Int64) :
    (valueIn repr ordinal).natAbs < UInt64.size := by
  unfold valueIn
  cases repr.isUnsigned with
  | true =>
    rw [if_pos rfl, Int.natAbs_natCast]
    exact ordinal.toUInt64.toNat_lt_size
  | false =>
    have hlow := ordinal.le_toInt
    have hhigh := ordinal.toInt_lt
    have hsize : UInt64.size = 2 ^ 64 := rfl
    simp only [Bool.false_eq_true, if_false]
    omega

/-- An ordinal for a representation that any word may name. Words other than the names of unsigned
types stand for signed ones. -/
def tokensFor (repr : Ident) (ordinal : Int64) : TokenStream :=
  tokens ((IntegerType.ofName? repr.text).getD .i32) ordinal

/-- The text of an ordinal is an expression that stands for this ordinal again, whatever word names
the representation. So the texts of two ordinals are equal only if the ordinals are. -/
theorem ofExpr?_reread (repr : Ident) (ordinal : Int64) :
    (∃ expr, Expr.ofText (tokensFor repr ordinal).text = .ok expr ∧ ofExpr? expr = some ordinal) ∧
      (∀ other, (tokensFor repr ordinal).text = (tokensFor repr other).text ↔ ordinal = other) ∧
      ∀ type span, tokensFor ⟨IntegerType.name type, span⟩ ordinal = tokens type ordinal := by
  have hreread (ordinal : Int64) : ∃ expr,
      Expr.ofText (tokensFor repr ordinal).text = .ok expr ∧ ofExpr? expr = some ordinal := by
    obtain ⟨expr, hexpr, hinteger⟩ :=
      integer?_reread_tokens ((IntegerType.ofName? repr.text).getD .i32) ordinal
    refine ⟨expr, hexpr, ?_⟩
    rw [ofExpr?_of_integer? hinteger, if_pos (natAbs_valueIn_lt _ _), ofInt_valueIn]
  refine ⟨hreread ordinal, fun other => ⟨fun htext => ?_, fun h => h ▸ rfl⟩, fun type span => ?_⟩
  · obtain ⟨expr, hexpr, hordinal⟩ := hreread ordinal
    obtain ⟨read, hread, hother⟩ := hreread other
    obtain rfl : expr = read := by simpa [htext, hread] using hexpr.symm
    exact Option.some.inj (hordinal.symm.trans hother)
  · rw [tokensFor, IntegerType.ofName?_name, Option.getD_some]

example : (tokensFor ⟨"i64", .nowhere⟩ Int64.minValue).text = "- 9223372036854775808" ∧
    (tokensFor ⟨"u64", .nowhere⟩ (-1)).text = "18446744073709551615" ∧
    (tokensFor ⟨"C", .nowhere⟩ (-1)).text = "- 1" := by
  decide +kernel

end Ordinal

end ValuedEnum
