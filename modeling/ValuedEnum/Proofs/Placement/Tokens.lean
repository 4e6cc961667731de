import ValuedEnum.Proofs.Placement
import ValuedEnum.Proofs.Spelling.Passing

/-!
# What the tokens of a text announce

The word `enum` with a name behind it announces an enumeration, and only the braces behind `mod` and
a name are looked into. So nothing is announced in the body of a function, among the members of a
trait or an implementation, in an expression, in an attribute, or in the arguments of a macro. This
file proves that tokens announce nothing if a parser passes over them.
-/

namespace ValuedEnum

/-- The names of the modules around an enumeration, the outermost one first, and its own name. -/
abbrev Site := List String × Ident

namespace TokenTree

/-- What stands in front of a token, as far as it matters for the token. -/
inductive Front where
  | plain
  /-- The quote of a lifetime. -/
  | quote
  | enumeration
  | module
  | moduleNamed (name : String)

/-- What stands in front of the token behind a tree. -/
def Front.behind (front : Front) : TokenTree → Front
  | .ident word =>
    match front with
    | quote => plain
    | enumeration => plain
    | module => moduleNamed word.text
    | _ =>
      if word.text = "enum" then enumeration
      else if word.text = "mod" then module
      else plain
  | .punct '\x27' .joint _ => quote
  | _ => plain

mutual

/-- The sites that a tree inside of some modules announces. -/
def announced (modules : List String) (front : Front) : TokenTree → List Site
  | ident name =>
    match front with
    | .enumeration => [(modules, name)]
    | _ => []
  | group delimiter inner _ =>
    match front, delimiter with
    | .moduleNamed name, .brace => announcedAll (modules ++ [name]) .plain inner
    | _, _ => []
  | punct .. => []
  | literal .. => []

/-- The sites that some trees inside of some modules announce, in their order. -/
def announcedAll (modules : List String) (front : Front) : List TokenTree → List Site
  | [] => []
  | tree :: rest => announced modules front tree ++ announcedAll modules (front.behind tree) rest

end

end TokenTree

namespace Placed

/-- Where an enumeration stands. -/
def site (entry : Placed) : Site := (entry.modules, entry.item.ident)

end Placed

open TokenTree

/-! ### Passing over tokens -/

namespace TokenStream

variable {tokens rest : TokenStream}

/-- Behind a visible tree all trees are visible if they were before. -/
theorem Visible.tail {tree : TokenTree} (h : tokens.Visible) (htokens : tokens = tree :: rest) :
    rest.Visible :=
  (visibleAll_cons.mp (htokens ▸ h)).2

/-- Without invisible groups the next token is the first one. -/
theorem Visible.of_next? (h : tokens.Visible) {tree : TokenTree}
    (hnext : tokens.next? = some (tree, rest)) : tokens = tree :: rest := by
  cases tokens with
  | nil => simp [next?, exposedAll] at hnext
  | cons first behind =>
    have hfirst := (visibleAll_cons.mp h).1
    have hexposed : exposed first behind = some (first :: behind) := by
      cases first with
      | group delimiter inner span =>
        have hdelimiter := (visible_group.mp hfirst).1
        cases delimiter <;> first | rfl | contradiction
      | _ => rfl
    obtain ⟨rfl, rfl⟩ : first = tree ∧ behind = rest := by
      simpa [next?, exposedAll, hexposed] using hnext
    rfl

/-- Among visible tokens the next word is the first tree. -/
theorem Visible.of_word? (h : tokens.Visible) {ident : Ident}
    (hword : tokens.word? = some (ident, rest)) : tokens = .ident ident :: rest := by
  unfold word? at hword
  split at hword
  · rename_i hnext
    obtain ⟨rfl, rfl⟩ : _ = ident ∧ _ = rest := by simpa using hword
    exact h.of_next? hnext
  · simp at hword

/-- Among visible tokens the next sign is the first tree. -/
theorem Visible.of_punct? (h : tokens.Visible) {char : Char} {spacing : Spacing} {span : Span}
    (hpunct : tokens.punct? = some (char, spacing, span, rest)) :
    tokens = .punct char spacing span :: rest ∧ char ≠ '\x27' := by
  unfold punct? at hpunct
  split at hpunct
  · rename_i hnext
    split at hpunct
    · simp at hpunct
    · rename_i hquote
      obtain ⟨rfl, rfl, rfl, rfl⟩ : _ = char ∧ _ = spacing ∧ _ = span ∧ _ = rest := by
        simpa using hpunct
      exact ⟨h.of_next? hnext, hquote⟩
  · simp at hpunct

/-- A sign of one character is that character. -/
theorem punct?_of_sign? {char : Char} {spans : List Span}
    (h : tokens.sign? [char] = some (spans, rest)) :
    ∃ spacing span, tokens.punct? = some (char, spacing, span, rest) ∧ spans = [span] := by
  rw [sign?] at h
  split at h
  · rename_i found spacing span behind hpunct
    split at h
    · rename_i hfound
      obtain ⟨rfl, rfl⟩ : [span] = spans ∧ behind = rest := by simpa [sign?] using h
      obtain rfl : found = char := by simpa using hfound
      exact ⟨spacing, span, hpunct, rfl⟩
    · simp at h
  · simp at h

/-- Among visible tokens the next lifetime is the first two trees. -/
theorem Visible.of_lifetime? (h : tokens.Visible) {quote : Span} {ident : Ident}
    (hlifetime : tokens.lifetime? = some (quote, ident, rest)) :
    tokens = .punct '\x27' .joint quote :: .ident ident :: rest := by
  unfold lifetime? at hlifetime
  split at hlifetime
  · rename_i hnext
    have hfront := h.of_next? hnext
    have hbehind := h.tail hfront
    split at hlifetime
    · rename_i hword
      obtain ⟨rfl, rfl, rfl⟩ : _ = quote ∧ _ = ident ∧ _ = rest := by simpa using hlifetime
      rw [hfront, hbehind.of_word? hword]
    · simp at hlifetime
  · simp at hlifetime

/-- Among visible tokens the next group is the first tree. -/
theorem Visible.of_group? (h : tokens.Visible) {delimiter : Delimiter} {inner : TokenStream}
    {span : Span} (hgroup : tokens.group? delimiter = some (inner, span, rest)) :
    tokens = .group delimiter inner span :: rest := by
  unfold group? at hgroup
  split at hgroup
  · rename_i hdelimiter
    split at hgroup
    · obtain ⟨rfl, rfl, rfl⟩ : _ = inner ∧ _ = span ∧ _ = rest := by simpa using hgroup
      rw [hdelimiter]
    · simp at hgroup
  · split at hgroup
    · rename_i hnext
      split at hgroup
      · rename_i hdelimiter
        obtain ⟨rfl, rfl, rfl⟩ : _ = inner ∧ _ = span ∧ _ = rest := by simpa using hgroup
        rw [h.of_next? hnext, hdelimiter]
      · simp at hgroup
    · simp at hgroup

/-- Tokens that are passed over announce nothing. -/
theorem Passes.announcedAll_eq (h : tokens.Passes rest) (htokens : tokens.Visible)
    (modules : List String) :
    rest.Visible ∧ announcedAll modules .plain tokens = announcedAll modules .plain rest := by
  -- One case for each kind of token that is taken. None of them is a heading, so none announces a
  -- site, nor changes what the next token announces.
  induction h with
  | done => exact ⟨htokens, rfl⟩
  | word h hheading _ ih =>
    have hfront := htokens.of_word? h
    obtain ⟨hvisible, hrest⟩ := ih (htokens.tail hfront)
    simp only [Ident.isHeading, Bool.or_eq_false_iff, decide_eq_false_iff_not] at hheading
    refine ⟨hvisible, ?_⟩
    simp [hfront, announcedAll, announced, Front.behind, hheading.1, hheading.2, hrest]
  | punct h _ ih =>
    obtain ⟨hfront, hquote⟩ := htokens.of_punct? h
    obtain ⟨hvisible, hrest⟩ := ih (htokens.tail hfront)
    refine ⟨hvisible, ?_⟩
    simp [hfront, announcedAll, announced, Front.behind, hquote, hrest]
  | literal h _ ih =>
    have hfront := htokens.of_next? h
    obtain ⟨hvisible, hrest⟩ := ih (htokens.tail hfront)
    refine ⟨hvisible, ?_⟩
    simp [hfront, announcedAll, announced, Front.behind, hrest]
  | lifetime h _ ih =>
    have hfront := htokens.of_lifetime? h
    have hword := htokens.tail hfront
    obtain ⟨hvisible, hrest⟩ := ih (hword.tail rfl)
    refine ⟨hvisible, ?_⟩
    simp [hfront, announcedAll, announced, Front.behind, hrest]
  | group h _ ih =>
    have hfront := htokens.of_group? h
    obtain ⟨hvisible, hrest⟩ := ih (htokens.tail hfront)
    refine ⟨hvisible, ?_⟩
    simp [hfront, announcedAll, announced, Front.behind, hrest]

end TokenStream

end ValuedEnum
