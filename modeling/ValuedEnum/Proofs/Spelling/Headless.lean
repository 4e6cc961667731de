import ValuedEnum.Grammar.Parser
import ValuedEnum.Proofs.Spelling.Passing

/-!
# Tokens without headings

A parser that takes no heading prints none either. This file defines the tokens in which no reader
comes across one, and proves that whoever passes over such tokens and others behind them stops in
front of the others, or goes on from there.
-/

namespace ValuedEnum

namespace TokenTree

/-- A tree that is no invisible group stands in sight. -/
theorem exposed_eq {tree : TokenTree} (h : ∀ inner span, tree ≠ .group .invisible inner span)
    (rest : List TokenTree) : exposed tree rest = some (tree :: rest) := by
  cases tree with
  | group delimiter inner span =>
    cases delimiter with
    | invisible => exact absurd rfl (h inner span)
    | _ => rw [exposed]; simp
  | _ => simp [exposed]

/-- Where no invisible group stands in front nothing is opened. -/
theorem eq_of_exposedAll_cons {tree : TokenTree} {rest trees : List TokenTree}
    (h : ∀ inner span, tree ≠ .group .invisible inner span)
    (hexposed : exposedAll (tree :: rest) = some trees) : tree :: rest = trees := by
  rw [exposedAll, exposed_eq h] at hexposed
  exact Option.some.inj hexposed

/-- What stands behind a tree is only looked at if nothing in the tree is in sight. -/
theorem exposed_append (tree : TokenTree) (rest back : List TokenTree) :
    exposed tree (rest ++ back) = (exposed tree rest).map (· ++ back) := by
  cases tree with
  | group delimiter inner span =>
    cases delimiter with
    | invisible =>
      rw [exposed, exposed]
      cases exposedAll inner <;> simp
    | _ => simp [exposed]
  | _ => simp [exposed]

/-- The groups of the front part are opened first, and those behind it if it holds nothing. -/
theorem exposedAll_append (front back : List TokenTree) :
    exposedAll (front ++ back) = ((exposedAll front).map (· ++ back)).or (exposedAll back) := by
  induction front with
  | nil => simp [exposedAll]
  | cons tree rest ih =>
    rw [List.cons_append, exposedAll, exposedAll, exposed_append]
    cases exposed tree rest with
    | some trees => simp
    | none => simp [ih]

mutual

/-- Where something is exposed, a token comes next. -/
theorem ne_nil_of_exposed {tree : TokenTree} {rest trees : List TokenTree}
    (h : exposed tree rest = some trees) : trees ≠ [] := by
  unfold exposed at h
  split at h
  · split at h
    · rename_i front hfront
      have hne := ne_nil_of_exposedAll hfront
      obtain rfl := Option.some.inj h
      simp [hne]
    · simp at h
  · obtain rfl := Option.some.inj h
    simp

/-- What is visible is not empty. -/
theorem ne_nil_of_exposedAll {trees front : List TokenTree} (h : exposedAll trees = some front) :
    front ≠ [] := by
  cases trees with
  | nil => simp [exposedAll] at h
  | cons tree rest =>
    rw [exposedAll] at h
    split at h
    · rename_i hfirst
      obtain rfl := Option.some.inj h
      exact ne_nil_of_exposed hfirst
    · exact ne_nil_of_exposedAll h

end

end TokenTree

namespace TokenStream

open TokenTree

/-- Tokens in which a reader comes across no heading: there is none among them or in an invisible
group, but for one behind the quote of a lifetime. -/
inductive Headless : TokenStream → Prop
  | nil : Headless []
  | word {ident : Ident} {rest : TokenStream} (hheading : ident.isHeading = false)
      (hrest : Headless rest) : Headless (.ident ident :: rest)
  | punct {char : Char} {spacing : Spacing} {span : Span} {rest : TokenStream}
      (hchar : char ≠ '\x27') (hrest : Headless rest) : Headless (.punct char spacing span :: rest)
  | lifetime {quote : Span} {ident : Ident} {rest : TokenStream} (hrest : Headless rest) :
      Headless (.punct '\x27' .joint quote :: .ident ident :: rest)
  | literal {text : String} {span : Span} {rest : TokenStream} (hrest : Headless rest) :
      Headless (.literal text span :: rest)
  | group {delimiter : Delimiter} {inner : TokenStream} {span : Span} {rest : TokenStream}
      (hdelimiter : delimiter ≠ .invisible) (hrest : Headless rest) :
      Headless (.group delimiter inner span :: rest)
  | fragment {inner : TokenStream} {span : Span} {rest : TokenStream} (hinner : Headless inner)
      (hrest : Headless rest) : Headless (.group .invisible inner span :: rest)

variable {front back tokens rest : TokenStream}

/-- Two parts without headings have none together, even where a lifetime ends the first one. -/
theorem Headless.append (hfront : front.Headless) (hback : back.Headless) :
    Headless (front ++ back) := by
  induction hfront with
  | nil => exact hback
  | word hheading _ ih => exact .word hheading ih
  | punct hchar _ ih => exact .punct hchar ih
  | lifetime _ ih => exact .lifetime ih
  | literal _ ih => exact .literal ih
  | group hdelimiter _ ih => exact .group hdelimiter ih
  | fragment hinner _ _ ih => exact .fragment hinner ih

/-- Parts without headings have none in a row. -/
theorem Headless.flatMap {α : Type} {parts : List α} {tokens : α → TokenStream}
    (h : ∀ part ∈ parts, (tokens part).Headless) : Headless (parts.flatMap tokens) := by
  induction parts with
  | nil => exact .nil
  | cons part rest ih =>
    obtain ⟨hpart, hrest⟩ := List.forall_mem_cons.mp h
    exact hpart.append (ih hrest)

/-- Signs are no headings, unless one is the quote of a lifetime. -/
theorem headless_signs {chars : List Char} (h : '\x27' ∉ chars) (span : Span) :
    Headless (signs span chars) := by
  fun_induction signs span chars with
  | case1 => exact .nil
  | case2 c => exact .punct (by simpa [eq_comm] using h) .nil
  | case3 c rest _ ih =>
    obtain ⟨hc, hrest⟩ : '\x27' ≠ c ∧ '\x27' ∉ rest := by simpa using h
    exact .punct hc.symm (ih hrest)

/-- A comma is no heading. -/
theorem headless_comma : Headless (sign ",") := headless_signs (by decide) _

/-- Angle brackets around tokens are no headings. -/
theorem headless_angled (h : tokens.Headless) : Headless (angled tokens) :=
  ((headless_signs (by decide) _).append h).append (headless_signs (by decide) _)

/-- Opening invisible groups brings no heading up. -/
theorem Headless.of_exposedAll (h : tokens.Headless) {trees : List TokenTree}
    (hexposed : exposedAll tokens = some trees) : Headless trees := by
  induction h generalizing trees with
  | nil => simp [exposedAll] at hexposed
  | fragment hinner hrest ihinner ihrest =>
    rw [exposedAll, exposed] at hexposed
    split at hexposed
    · rename_i first hfirst
      split at hfirst
      · rename_i front hfront
        obtain rfl : front ++ _ = first := by simpa using hfirst
        obtain rfl := Option.some.inj hexposed
        exact (ihinner hfront).append hrest
      · simp at hfirst
    · exact ihrest hexposed
  | word hheading hrest _ =>
    exact eq_of_exposedAll_cons (by simp) hexposed ▸ .word hheading hrest
  | punct hchar hrest _ => exact eq_of_exposedAll_cons (by simp) hexposed ▸ .punct hchar hrest
  | lifetime hrest _ => exact eq_of_exposedAll_cons (by simp) hexposed ▸ .lifetime hrest
  | literal hrest _ => exact eq_of_exposedAll_cons (by simp) hexposed ▸ .literal hrest
  | group hdelimiter hrest _ =>
    exact eq_of_exposedAll_cons (by simp [hdelimiter]) hexposed ▸ .group hdelimiter hrest

/-- What comes next is a token in sight. -/
theorem exposedAll_of_next? {tree : TokenTree} (h : tokens.next? = some (tree, rest)) :
    exposedAll tokens = some (tree :: rest) := by
  unfold next? at h
  split at h
  · rename_i first behind hexposed
    obtain ⟨rfl, rfl⟩ : first = tree ∧ behind = rest := by simpa using h
    exact hexposed
  · simp at h

/-- The next token is in the front part, unless nothing visible is. -/
theorem next?_append (front back : TokenStream) :
    next? (front ++ back) =
      (front.next?.map fun read => (read.1, read.2 ++ back)).or back.next? := by
  unfold next?
  rw [exposedAll_append]
  cases hfront : exposedAll front with
  | none => simp
  | some trees =>
    obtain ⟨tree, rest, rfl⟩ := List.exists_cons_of_ne_nil (ne_nil_of_exposedAll hfront)
    simp

/-- Behind the next token there is no heading either. -/
theorem Headless.of_next? (h : tokens.Headless) {tree : TokenTree}
    (hnext : tokens.next? = some (tree, rest)) : Headless (tree :: rest) :=
  h.of_exposedAll (exposedAll_of_next? hnext)

/-- The next token of some tokens in front of others is one of the former, if there is any among
them. -/
theorem next?_append_cases {tree : TokenTree} (h : next? (front ++ back) = some (tree, rest)) :
    (∃ left, front.next? = some (tree, left) ∧ rest = left ++ back) ∨
      back.next? = some (tree, rest) := by
  rw [next?_append] at h
  cases hfront : front.next? with
  | none => exact .inr (by simpa [hfront] using h)
  | some read =>
    obtain ⟨rfl, rfl⟩ : read.1 = tree ∧ read.2 ++ back = rest := by simpa [hfront] using h
    exact .inl ⟨read.2, rfl, rfl⟩

/-- The next word is the next token, if that is a word. -/
theorem word?_eq_some_iff {ident : Ident} :
    tokens.word? = some (ident, rest) ↔ tokens.next? = some (.ident ident, rest) := by
  unfold word?
  grind

/-- The next sign is the next token, if that is a sign other than the quote of a lifetime. -/
theorem punct?_eq_some_iff {char : Char} {spacing : Spacing} {span : Span} :
    tokens.punct? = some (char, spacing, span, rest) ↔
      tokens.next? = some (.punct char spacing span, rest) ∧ char ≠ '\x27' := by
  unfold punct?
  grind

/-- The next lifetime is the next two tokens, if these are a joint quote and a word. -/
theorem lifetime?_eq_some_iff {quote : Span} {ident : Ident} :
    tokens.lifetime? = some (quote, ident, rest) ↔
      ∃ behind, tokens.next? = some (.punct '\x27' .joint quote, behind) ∧
        behind.next? = some (.ident ident, rest) := by
  unfold lifetime? word?
  grind

/-- The next visible group is the next token, if that is such a group. -/
theorem group?_eq_some_iff {delimiter : Delimiter} (h : delimiter ≠ .invisible)
    {inner : TokenStream} {span : Span} :
    tokens.group? delimiter = some (inner, span, rest) ↔
      tokens.next? = some (.group delimiter inner span, rest) := by
  unfold group?
  grind

/-- The next invisible group is the first tree, if that is one. -/
theorem group?_invisible_eq_some_iff {inner : TokenStream} {span : Span} :
    tokens.group? .invisible = some (inner, span, rest) ↔
      tokens = .group .invisible inner span :: rest := by
  unfold group?
  grind

/-! ### Taking tokens in front of others -/

section Taking

variable (hfront : front.Headless)
include hfront

/-- A word is taken from the front part and is no heading, or the front part is used up. -/
theorem Headless.word?_cases {ident : Ident} (h : word? (front ++ back) = some (ident, rest)) :
    (∃ left : TokenStream, left.Headless ∧ rest = left ++ back ∧ ident.isHeading = false) ∨
      back.word? = some (ident, rest) := by
  rw [word?_eq_some_iff] at h
  rcases next?_append_cases h with ⟨left, hnext, rfl⟩ | hback
  · cases hfront.of_next? hnext with
    | word hheading hleft => exact .inl ⟨left, hleft, rfl, hheading⟩
  · exact .inr (word?_eq_some_iff.mpr hback)

/-- A sign is taken from the front part, or the front part is used up. -/
theorem Headless.punct?_cases {char : Char} {spacing : Spacing} {span : Span}
    (h : punct? (front ++ back) = some (char, spacing, span, rest)) :
    (∃ left : TokenStream, left.Headless ∧ rest = left ++ back) ∨
      back.punct? = some (char, spacing, span, rest) := by
  rw [punct?_eq_some_iff] at h
  obtain ⟨hfirst, hchar⟩ := h
  rcases next?_append_cases hfirst with ⟨left, hnext, rfl⟩ | hback
  · cases hfront.of_next? hnext with
    | punct _ hleft => exact .inl ⟨left, hleft, rfl⟩
    | lifetime => exact absurd rfl hchar
  · exact .inr (punct?_eq_some_iff.mpr ⟨hback, hchar⟩)

/-- A literal is taken from the front part, or the front part is used up. -/
theorem Headless.literal_cases {text : String} {span : Span}
    (h : next? (front ++ back) = some (.literal text span, rest)) :
    (∃ left : TokenStream, left.Headless ∧ rest = left ++ back) ∨
      back.next? = some (.literal text span, rest) := by
  rcases next?_append_cases h with ⟨left, hnext, rfl⟩ | hback
  · cases hfront.of_next? hnext with
    | literal hleft => exact .inl ⟨left, hleft, rfl⟩
  · exact .inr hback

/-- A lifetime is taken from the front part, or the front part is used up. -/
theorem Headless.lifetime?_cases {quote : Span} {ident : Ident}
    (h : lifetime? (front ++ back) = some (quote, ident, rest)) :
    (∃ left : TokenStream, left.Headless ∧ rest = left ++ back) ∨
      back.lifetime? = some (quote, ident, rest) := by
  obtain ⟨behind, hquote, hword⟩ := lifetime?_eq_some_iff.mp h
  rcases next?_append_cases hquote with ⟨left, hnext, rfl⟩ | hback
  · cases hfront.of_next? hnext with
    | punct hchar => exact absurd rfl hchar
    | lifetime hleft =>
      obtain ⟨-, rfl⟩ : _ ∧ _ = _ := by simpa [next?, exposedAll, exposed] using hword
      exact .inl ⟨_, hleft, rfl⟩
  · exact .inr (lifetime?_eq_some_iff.mpr ⟨behind, hback, hword⟩)

/-- A group is taken from the front part, or the front part is used up. -/
theorem Headless.group?_cases {delimiter : Delimiter} {inner : TokenStream} {span : Span}
    (h : group? delimiter (front ++ back) = some (inner, span, rest)) :
    (∃ left : TokenStream, left.Headless ∧ rest = left ++ back) ∨
      back.group? delimiter = some (inner, span, rest) := by
  by_cases hdelimiter : delimiter = .invisible
  · subst hdelimiter
    rw [group?_invisible_eq_some_iff] at h
    cases hfront with
    | nil => exact .inr (group?_invisible_eq_some_iff.mpr h)
    | fragment _ hleft =>
      obtain ⟨-, rfl⟩ : _ ∧ _ = _ := by simpa using h
      exact .inl ⟨_, hleft, rfl⟩
    | group hvisible =>
      obtain ⟨⟨rfl, -⟩, -⟩ : _ ∧ _ = _ := by simpa using h
      exact absurd rfl hvisible
    | _ => simp at h
  · rw [group?_eq_some_iff hdelimiter] at h
    rcases next?_append_cases h with ⟨left, hnext, rfl⟩ | hback
    · cases hfront.of_next? hnext with
      | group _ hleft => exact .inl ⟨left, hleft, rfl⟩
      | fragment => exact absurd rfl hdelimiter
    · exact .inr ((group?_eq_some_iff hdelimiter).mpr hback)

end Taking

/-- What is left of tokens without headings in front of others is such tokens in front of the
others, or what is left of the others. -/
theorem Passes.of_append (h : Passes (front ++ back) rest) (hfront : front.Headless) :
    (∃ left : TokenStream, left.Headless ∧ rest = left ++ back) ∨ back.Passes rest := by
  generalize htokens : front ++ back = tokens at h
  induction h generalizing front with
  | done tokens => exact .inl ⟨front, hfront, htokens.symm⟩
  | word hword hheading hrest ih =>
    rcases hfront.word?_cases (htokens ▸ hword) with ⟨left, hleft, rfl, -⟩ | hback
    · exact ih hleft rfl
    · exact .inr (.word hback hheading hrest)
  | punct hpunct hrest ih =>
    rcases hfront.punct?_cases (htokens ▸ hpunct) with ⟨left, hleft, rfl⟩ | hback
    · exact ih hleft rfl
    · exact .inr (.punct hback hrest)
  | literal hliteral hrest ih =>
    rcases hfront.literal_cases (htokens ▸ hliteral) with ⟨left, hleft, rfl⟩ | hback
    · exact ih hleft rfl
    · exact .inr (.literal hback hrest)
  | lifetime hlifetime hrest ih =>
    rcases hfront.lifetime?_cases (htokens ▸ hlifetime) with ⟨left, hleft, rfl⟩ | hback
    · exact ih hleft rfl
    · exact .inr (.lifetime hback hrest)
  | group hgroup hrest ih =>
    rcases hfront.group?_cases (htokens ▸ hgroup) with ⟨left, hleft, rfl⟩ | hback
    · exact ih hleft rfl
    · exact .inr (.group hback hrest)

/-- The signs of an operator that was read are no headings, and none of them is a quote. -/
theorem headless_spelled {chars : List Char} {spans : List Span}
    (h : tokens.sign? chars = some (spans, rest)) : Headless (Parser.spelled chars spans) := by
  induction chars generalizing tokens spans with
  | nil => exact .nil
  | cons c more ih =>
    rw [sign?] at h
    split at h
    · rename_i char spacing span behind hpunct
      have hchar : char ≠ '\x27' := (punct?_eq_some_iff.mp hpunct).2
      split at h
      · rename_i hsame
        obtain ⟨rfl, -⟩ : char = c ∧ _ := by simpa using hsame
        simp only [Option.map_eq_some_iff, Prod.mk.injEq] at h
        obtain ⟨⟨inner, last⟩, hmore, rfl, rfl⟩ := h
        cases more with
        | nil => exact .punct hchar .nil
        | cons next more => exact .punct hchar (ih hmore)
      · simp at h
    · simp at h

end TokenStream

/-- A truth value is no heading. -/
theorem Lit.headless_tokens (lit : Lit) : lit.tokens.Headless := by
  unfold tokens token
  split
  · rename_i value hkind
    have henum : LitKind.ofText "enum".toList = .other := by decide
    have hmod : LitKind.ofText "mod".toList = .other := by decide
    refine .word ?_ .nil
    rw [Ident.isHeading, Bool.or_eq_false_iff, decide_eq_false_iff_not, decide_eq_false_iff_not]
    refine ⟨fun htext => ?_, fun htext => ?_⟩
    · exact absurd ((htext ▸ henum).symm.trans hkind) (by simp)
    · exact absurd ((htext ▸ hmod).symm.trans hkind) (by simp)
  · exact .literal .nil

end ValuedEnum
