import ValuedEnum.Proofs.Spelling.Tokens

/-!
# Passing over tokens

Two words head the items of a file that are kept: `enum` and `mod`. The parts of all other items are
passed over, and none of these words is taken on the way, but for the ones in a lifetime and in a
group. `TokenStream.Passes` says what is left then.
-/

namespace ValuedEnum

/-- The words in front of the items that are kept. -/
def Ident.isHeading (ident : Ident) : Bool := ident.text = "enum" || ident.text = "mod"

/-- A name is reserved if it is a heading. -/
theorem Ident.not_isHeading_of_isName {ident : Ident} (h : ident.isName = true) :
    ident.isHeading = false := by
  by_cases hheading : ident.isHeading = true
  · have hreserved : ident.text ∈ reserved := by
      rcases (by simpa [isHeading] using hheading : ident.text = "enum" ∨ ident.text = "mod") with
        htext | htext <;> rw [htext] <;> decide
    simp [isName, hreserved] at h
  · simpa using hheading

namespace TokenStream

/-- What is left of some tokens once others than headings were taken in front of them. -/
inductive Passes : TokenStream → TokenStream → Prop
  | done (tokens : TokenStream) : Passes tokens tokens
  | word {tokens rest last : TokenStream} {ident : Ident}
      (h : tokens.word? = some (ident, rest)) (hheading : ident.isHeading = false)
      (hrest : Passes rest last) : Passes tokens last
  | punct {tokens rest last : TokenStream} {char : Char} {spacing : Spacing} {span : Span}
      (h : tokens.punct? = some (char, spacing, span, rest)) (hrest : Passes rest last) :
      Passes tokens last
  | literal {tokens rest last : TokenStream} {text : String} {span : Span}
      (h : tokens.next? = some (.literal text span, rest)) (hrest : Passes rest last) :
      Passes tokens last
  | lifetime {tokens rest last : TokenStream} {quote : Span} {ident : Ident}
      (h : tokens.lifetime? = some (quote, ident, rest)) (hrest : Passes rest last) :
      Passes tokens last
  | group {tokens rest last inner : TokenStream} {delimiter : Delimiter} {span : Span}
      (h : tokens.group? delimiter = some (inner, span, rest)) (hrest : Passes rest last) :
      Passes tokens last

/-- Tokens may be passed over in two parts. -/
theorem Passes.trans {first second third : TokenStream} (h : first.Passes second)
    (hrest : second.Passes third) : first.Passes third := by
  induction h with
  | done => exact hrest
  | word h hheading _ ih => exact .word h hheading (ih hrest)
  | punct h _ ih => exact .punct h (ih hrest)
  | literal h _ ih => exact .literal h (ih hrest)
  | lifetime h _ ih => exact .lifetime h (ih hrest)
  | group h _ ih => exact .group h (ih hrest)

/-- What holds of all trees at any depth holds of those that are left of them. -/
theorem Passes.of_hereditary {holds : TokenTree → Prop} (hholds : TokenTree.Hereditary holds)
    {tokens rest : TokenStream} (h : tokens.Passes rest) (htokens : ∀ tree ∈ tokens, holds tree) :
    ∀ tree ∈ rest, holds tree := by
  induction h with
  | done => exact htokens
  | word h _ _ ih => exact ih (hholds.of_word? htokens h).2
  | punct h _ ih => exact ih (hholds.of_punct? htokens h)
  | literal h _ ih => exact ih (hholds.of_next? htokens h).2
  | lifetime h _ ih => exact ih (hholds.of_lifetime? htokens h)
  | group h _ ih => exact ih (hholds.of_group? htokens h).2

/-- Tokens that are left of spelled ones are spelled. -/
theorem Passes.spelled {tokens rest : TokenStream} (h : tokens.Passes rest)
    (htokens : tokens.Spelled) : rest.Spelled :=
  TokenTree.spelledAll_iff.mpr <|
    h.of_hereditary TokenTree.hereditary_spelled (TokenTree.spelledAll_iff.mp htokens)

variable {tokens rest : TokenStream}

/-- An operator is passed over. -/
theorem passes_of_sign? {chars : List Char} {spans : List Span}
    (h : tokens.sign? chars = some (spans, rest)) : tokens.Passes rest := by
  induction chars generalizing tokens spans with
  | nil =>
    obtain ⟨_, rfl⟩ : [] = spans ∧ tokens = rest := by simpa [sign?] using h
    exact .done tokens
  | cons c more ih =>
    rw [sign?] at h
    split at h
    · rename_i hpunct
      split at h
      · simp only [Option.map_eq_some_iff, Prod.mk.injEq] at h
        obtain ⟨⟨inner, last⟩, hmore, _, rfl⟩ := h
        exact .punct hpunct (ih hmore)
      · simp at h
    · simp at h

/-- A literal is passed over, since truth values are no headings. -/
theorem passes_of_lit? {lit : Lit} (h : tokens.lit? = some (lit, rest)) : tokens.Passes rest := by
  unfold lit? at h
  split at h
  · rename_i hnext
    obtain ⟨_, rfl⟩ : _ ∧ _ = rest := by simpa using h
    exact .literal hnext (.done _)
  · rename_i ident behind hnext
    split at h
    · rename_i htext
      obtain ⟨_, rfl⟩ : _ ∧ behind = rest := by simpa using h
      have hword : tokens.word? = some (ident, behind) := by simp [word?, hnext]
      have hheading : ident.isHeading = false := by
        rcases (by simpa using htext : ident.text = "true" ∨ ident.text = "false") with
          htext | htext <;> simp [Ident.isHeading, htext]
      exact .word hword hheading (.done _)
    · simp at h
  · simp at h

/-- A negative number is passed over. -/
theorem passes_of_negative? {minus : Span} {lit : Lit}
    (h : tokens.negative? = some (minus, lit, rest)) : tokens.Passes rest := by
  unfold negative? at h
  split at h
  · rename_i hpunct
    split at h
    · rename_i hnext
      split at h
      · obtain ⟨_, _, rfl⟩ : _ ∧ _ ∧ _ = rest := by simpa using h
        exact .punct hpunct (.literal hnext (.done _))
      · simp at h
    · simp at h
  · simp at h

end TokenStream

end ValuedEnum
