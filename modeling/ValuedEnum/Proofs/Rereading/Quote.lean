import ValuedEnum.Proofs.Rereading.Token
import ValuedEnum.Proofs.Typing.Quoted

/-!
# Quoted texts

The text of a documentation comment becomes a string literal. Whatever the text is, its quoted form
is a literal of the language: every character is written as itself or as one escape.
-/

namespace ValuedEnum

namespace Text

open Form

/-! ### Hexadecimal digits -/

/-- A number below sixteen has one hexadecimal digit. -/
theorem hexadecimal_of_lt {n : Nat} (h : n < 16) : hexadecimal n = [n.digitChar] :=
  Nat.toDigits_of_lt_base h

/-- Any other number has the digits of a sixteenth of it in front of its last one. -/
theorem hexadecimal_of_le {n : Nat} (h : 16 ≤ n) :
    hexadecimal n = hexadecimal (n / 16) ++ [(n % 16).digitChar] :=
  Nat.toDigits_of_base_le (by omega) h

/-- A digit that is written is read with its value. -/
theorem hexValue?_digitChar {n : Nat} (h : n < 16) : Lexer.hexValue? n.digitChar = some n := by
  have hall : ∀ n < 16, Lexer.hexValue? n.digitChar = some n := by decide
  exact hall n h

/-- The digits that are written are those that are read. -/
theorem digitChar_mem {n : Nat} (h : n < 16) : n.digitChar ∈ hexadecimalDigits := by
  have hall : ∀ n < 16, n.digitChar ∈ hexadecimalDigits := by decide
  exact hall n h

/-- The digits of a number are hexadecimal. -/
theorem mem_of_mem_hexadecimal (n : Nat) : ∀ c ∈ hexadecimal n, c ∈ hexadecimalDigits := by
  induction n using Nat.strongRecOn with
  | ind n ih =>
    rcases Nat.lt_or_ge n 16 with hlt | hle
    · rw [hexadecimal_of_lt hlt]
      simpa using digitChar_mem hlt
    · rw [hexadecimal_of_le hle]
      refine List.forall_mem_append.mpr ⟨ih (n / 16) (by omega), ?_⟩
      simpa using digitChar_mem (Nat.mod_lt n (by omega))

/-- Digits are read from the front. -/
theorem codeFrom_append (value : Nat) (front back : List Char) :
    codeFrom value (front ++ back) = codeFrom (codeFrom value front) back :=
  List.foldl_append

/-- The digits of a number stand for it. -/
theorem codeFrom_hexadecimal (n : Nat) : codeFrom 0 (hexadecimal n) = n := by
  have hdigit {digit : Nat} (hdigit : digit < 16) (value : Nat) :
      codeFrom value [digit.digitChar] = value * 16 + digit :=
    Lexer.codeFrom_cons_of_mem (digitChar_mem hdigit) (hexValue?_digitChar hdigit) value []
  induction n using Nat.strongRecOn with
  | ind n ih =>
    rcases Nat.lt_or_ge n 16 with hlt | hle
    · rw [hexadecimal_of_lt hlt, hdigit hlt]
      omega
    · rw [hexadecimal_of_le hle, codeFrom_append, ih (n / 16) (by omega),
        hdigit (Nat.mod_lt n (by omega))]
      omega

/-! ### Escapes -/

/-- An escape of one letter. -/
theorem body_short {c : Char} (h : c ∈ ['n', 'r', 't', '\\', '0', '\x27', '\x22'])
    {rest : List Char} (hrest : Body .text rest) : Body .text ('\\' :: c :: rest) :=
  Body.escape (.short (by decide) h) hrest

/-- Every character may be escaped by its number. -/
theorem body_unicodeEscape (c : Char) {rest : List Char} (hrest : Body .text rest) :
    Body .text (unicodeEscape c ++ rest) := by
  have hvalid : c.toNat.isValidChar := c.valid
  have hsmall : c.toNat < 16 ^ 6 := by
    unfold Nat.isValidChar at hvalid
    omega
  have hshort : (hexadecimal c.toNat).length ≤ 6 :=
    (Nat.length_toDigits_le_iff (by omega) (by omega)).mpr hsmall
  have hmem := mem_of_mem_hexadecimal c.toNat
  have hcode := codeFrom_hexadecimal c.toNat
  rw [unicodeEscape]
  cases hdigits : hexadecimal c.toNat with
  | nil => exact absurd hdigits Nat.toDigits_ne_nil
  | cons first more =>
    rw [hdigits] at hshort hmem hcode
    obtain ⟨hfirst, hmore⟩ := List.forall_mem_cons.mp hmem
    have hcount : more.countP (· != '_') < 6 :=
      Nat.lt_of_le_of_lt List.countP_le_length (Nat.lt_of_succ_le hshort)
    have hescape := Escape.unicode hfirst (fun c hc => .inl (hmore c hc)) hcount (hcode ▸ hvalid)
    simpa using Body.escape hescape hrest

/-- A character that is written as itself or as an escape may stand between quotes. -/
theorem body_escapeChar (c : Char) {rest : List Char} (hrest : Body .text rest) :
    Body .text (escapeChar c ++ rest) := by
  unfold escapeChar
  split
  · exact body_short (by decide) hrest
  · split
    · exact body_short (by decide) hrest
    · split
      · exact body_short (by decide) hrest
      · split
        · exact body_short (by decide) hrest
        · split
          · exact body_short (by decide) hrest
          · split
            · exact body_unicodeEscape c hrest
            · rename_i _ hreturn _ hquote hbackslash _
              exact .plain hquote hbackslash hreturn rfl hrest

/-- The escaped form of a text may stand between quotes. -/
theorem body_escape (text : List Char) : Body .text (escape text) := by
  induction text with
  | nil => exact .nil
  | cons c rest ih =>
    unfold escape
    split
    · split
      · split
        · exact Body.escape (.ascii (by decide) (by decide)) ih
        · exact body_short (by decide) ih
      · exact body_short (by decide) .nil
    · exact body_escapeChar c ih

end Text

namespace Lexer

open Text

/-- The quoted form of a text is one literal. -/
theorem isLiteral_quote (text : List Char) : IsLiteral (quote text) := by
  obtain ⟨content, hcontent⟩ := quoted?_string (body_escape text)
  refine isLiteral_of_literalLength? ?_
  change literalLength? (Form.cooked (escape text)) = some (Form.cooked (escape text)).length
  simp [literalLength?, hcontent, literalLength?.withTail, identifierLength?]

end Lexer

end ValuedEnum
