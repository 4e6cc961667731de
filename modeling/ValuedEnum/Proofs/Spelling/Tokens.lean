import ValuedEnum.Grammar.Terminal
import ValuedEnum.Proofs.Rereading.Quote
import ValuedEnum.Proofs.Rereading.Word
import ValuedEnum.Token.Lexer

/-!
# Spelled tokens

Tokens that are read from a text hold no words but identifiers, in groups and outside of them. This
file proves that of the lexer, and that whatever a reader takes from such tokens leaves such tokens
behind.
-/

namespace ValuedEnum

/-- A word stays an identifier wherever it stands. -/
theorem Ident.IsIdentifier.withSpan {ident : Ident} (h : ident.IsIdentifier) (span : Span) :
    Ident.IsIdentifier ⟨ident.text, span⟩ := h

namespace TokenTree

mutual

/-- Whether all words of a tree are identifiers. -/
def Spelled : TokenTree → Prop
  | group _ inner _ => SpelledAll inner
  | ident name => name.IsIdentifier
  | punct .. => True
  | literal .. => True

/-- Whether all words of some trees are identifiers. -/
def SpelledAll : List TokenTree → Prop
  | [] => True
  | tree :: rest => Spelled tree ∧ SpelledAll rest

end

/-- A group is spelled if its content is. -/
@[simp] theorem spelled_group {delimiter : Delimiter} {inner : List TokenTree} {span : Span} :
    (group delimiter inner span).Spelled ↔ SpelledAll inner := by
  rw [Spelled]

/-- A word is spelled if it is an identifier. -/
@[simp] theorem spelled_ident {name : Ident} : (ident name).Spelled ↔ name.IsIdentifier := by
  rw [Spelled]

/-- Signs are spelled. -/
@[simp] theorem spelled_punct {char : Char} {spacing : Spacing} {span : Span} :
    (punct char spacing span).Spelled := by
  simp [Spelled]

/-- Literals are spelled. -/
@[simp] theorem spelled_literal {text : String} {span : Span} : (literal text span).Spelled := by
  simp [Spelled]

/-- Trees are spelled if each of them is. -/
theorem spelledAll_iff {trees : List TokenTree} :
    SpelledAll trees ↔ ∀ tree ∈ trees, tree.Spelled := by
  induction trees with
  | nil => simp [SpelledAll]
  | cons tree rest ih => rw [SpelledAll, List.forall_mem_cons, ih]

/-- Trees are spelled one by one from the front. -/
@[simp] theorem spelledAll_cons {tree : TokenTree} {rest : List TokenTree} :
    SpelledAll (tree :: rest) ↔ tree.Spelled ∧ SpelledAll rest := by
  rw [SpelledAll]

/-- Some trees move elsewhere one by one. -/
theorem withSpanAll_eq_map (span : Span) (trees : List TokenTree) :
    withSpanAll span trees = trees.map (withSpan span) := by
  induction trees with
  | nil => rw [withSpanAll, List.map_nil]
  | cons tree rest ih => rw [withSpanAll, ih, List.map_cons]

mutual

/-- The words of a tree stay the same wherever it stands. -/
theorem spelled_withSpan {span : Span} {tree : TokenTree} :
    (tree.withSpan span).Spelled ↔ tree.Spelled := by
  cases tree with
  | group delimiter inner start =>
    rw [withSpan, spelled_group, spelled_group]
    exact spelledAll_withSpanAll
  | ident name =>
    rw [withSpan, spelled_ident, spelled_ident]
    exact ⟨fun h => h.withSpan name.span, fun h => h.withSpan span⟩
  | punct char spacing start => simp [withSpan]
  | literal text start => simp [withSpan]

/-- Trees that move elsewhere are spelled as before. -/
theorem spelledAll_withSpanAll {span : Span} {trees : List TokenTree} :
    SpelledAll (withSpanAll span trees) ↔ SpelledAll trees := by
  cases trees with
  | nil => rw [withSpanAll]
  | cons tree rest =>
    rw [withSpanAll, spelledAll_cons, spelledAll_cons, spelled_withSpan, spelledAll_withSpanAll]

end

/-! ### Visible trees -/

mutual

/-- Whether no group is invisible, the tree itself included. -/
def Visible : TokenTree → Prop
  | group delimiter inner _ => delimiter ≠ .invisible ∧ VisibleAll inner
  | ident _ => True
  | punct .. => True
  | literal .. => True

/-- Whether no group among some trees is invisible. -/
def VisibleAll : List TokenTree → Prop
  | [] => True
  | tree :: rest => Visible tree ∧ VisibleAll rest

end

/-- A group is visible if its delimiters and its content are. -/
@[simp] theorem visible_group {delimiter : Delimiter} {inner : List TokenTree} {span : Span} :
    (group delimiter inner span).Visible ↔ delimiter ≠ .invisible ∧ VisibleAll inner := by
  rw [Visible]

/-- Words are visible. -/
@[simp] theorem visible_ident {name : Ident} : (ident name).Visible := by simp [Visible]

/-- Signs are visible. -/
@[simp] theorem visible_punct {char : Char} {spacing : Spacing} {span : Span} :
    (punct char spacing span).Visible := by
  simp [Visible]

/-- Literals are visible. -/
@[simp] theorem visible_literal {text : String} {span : Span} : (literal text span).Visible := by
  simp [Visible]

/-- Trees are visible if each of them is. -/
theorem visibleAll_iff {trees : List TokenTree} :
    VisibleAll trees ↔ ∀ tree ∈ trees, tree.Visible := by
  induction trees with
  | nil => simp [VisibleAll]
  | cons tree rest ih => rw [VisibleAll, List.forall_mem_cons, ih]

/-- Trees are visible one by one from the front. -/
@[simp] theorem visibleAll_cons {tree : TokenTree} {rest : List TokenTree} :
    VisibleAll (tree :: rest) ↔ tree.Visible ∧ VisibleAll rest := by
  rw [VisibleAll]

mutual

/-- A group stays visible wherever it stands. -/
theorem visible_withSpan {span : Span} {tree : TokenTree} :
    (tree.withSpan span).Visible ↔ tree.Visible := by
  cases tree with
  | group delimiter inner start =>
    rw [withSpan, visible_group, visible_group, visibleAll_withSpanAll]
  | _ => simp [withSpan]

/-- Trees that move elsewhere are visible as before. -/
theorem visibleAll_withSpanAll {span : Span} {trees : List TokenTree} :
    VisibleAll (withSpanAll span trees) ↔ VisibleAll trees := by
  cases trees with
  | nil => rw [withSpanAll]
  | cons tree rest =>
    rw [withSpanAll, visibleAll_cons, visibleAll_cons, visible_withSpan, visibleAll_withSpanAll]

end

/-! ### Taking tokens -/

/-- A property that the trees in a group have if the group has it. -/
def Hereditary (holds : TokenTree → Prop) : Prop :=
  ∀ ⦃delimiter : Delimiter⦄ ⦃inner : List TokenTree⦄ ⦃span : Span⦄,
    holds (.group delimiter inner span) → ∀ tree ∈ inner, holds tree

/-- The trees in a group are spelled if the group is. -/
theorem hereditary_spelled : Hereditary Spelled :=
  fun _ _ _ h => spelledAll_iff.mp (spelled_group.mp h)

variable {holds : TokenTree → Prop}

mutual

/-- Opening invisible groups brings no trees up that were not there. -/
theorem Hereditary.of_exposed (h : Hereditary holds) {tree : TokenTree}
    {rest trees : List TokenTree} (hexposed : exposed tree rest = some trees) (htree : holds tree)
    (hrest : ∀ other ∈ rest, holds other) : ∀ other ∈ trees, holds other := by
  cases tree with
  | group delimiter inner span =>
    cases delimiter with
    | invisible =>
      rw [exposed] at hexposed
      cases hinner : exposedAll inner with
      | none => simp [hinner] at hexposed
      | some front =>
        have hfront : ∀ other ∈ front, holds other := h.of_exposedAll hinner (h htree)
        obtain rfl : front ++ rest = trees := by simpa [hinner] using hexposed
        exact List.forall_mem_append.mpr ⟨hfront, hrest⟩
    | _ =>
      simp only [exposed, Option.some.injEq] at hexposed
      exact hexposed ▸ List.forall_mem_cons.mpr ⟨htree, hrest⟩
  | _ =>
    simp only [exposed, Option.some.injEq] at hexposed
    exact hexposed ▸ List.forall_mem_cons.mpr ⟨htree, hrest⟩

/-- To open the groups in front keeps the property of all trees. -/
theorem Hereditary.of_exposedAll (h : Hereditary holds) {trees front : List TokenTree}
    (hexposed : exposedAll trees = some front) (htrees : ∀ tree ∈ trees, holds tree) :
    ∀ tree ∈ front, holds tree := by
  cases trees with
  | nil => simp [exposedAll] at hexposed
  | cons tree rest =>
    obtain ⟨htree, hrest⟩ := List.forall_mem_cons.mp htrees
    rw [exposedAll] at hexposed
    cases hfirst : exposed tree rest with
    | some trees =>
      obtain rfl : trees = front := by simpa [hfirst] using hexposed
      exact h.of_exposed hfirst htree hrest
    | none =>
      have hback : exposedAll rest = some front := by simpa [hfirst] using hexposed
      exact h.of_exposedAll hback hrest

end

section Taking

variable (h : Hereditary holds) {tokens rest : TokenStream} (htokens : ∀ tree ∈ tokens, holds tree)
include h htokens

/-- The next token and all that follow it have the property. -/
theorem Hereditary.of_next? {tree : TokenTree} (hnext : tokens.next? = some (tree, rest)) :
    holds tree ∧ ∀ other ∈ rest, holds other := by
  unfold TokenStream.next? at hnext
  split at hnext
  · rename_i first behind hexposed
    obtain ⟨rfl, rfl⟩ : first = tree ∧ behind = rest := by simpa using hnext
    exact List.forall_mem_cons.mp (h.of_exposedAll hexposed htokens)
  · simp at hnext

/-- The next word and all tokens that follow it have the property. -/
theorem Hereditary.of_word? {ident : Ident} (hword : tokens.word? = some (ident, rest)) :
    holds (.ident ident) ∧ ∀ tree ∈ rest, holds tree := by
  unfold TokenStream.word? at hword
  split at hword
  · rename_i first behind hnext
    obtain ⟨rfl, rfl⟩ : first = ident ∧ behind = rest := by simpa using hword
    exact h.of_next? htokens hnext
  · simp at hword

/-- All tokens behind the next sign have the property. -/
theorem Hereditary.of_punct? {char : Char} {spacing : Spacing} {span : Span}
    (hpunct : tokens.punct? = some (char, spacing, span, rest)) : ∀ tree ∈ rest, holds tree := by
  unfold TokenStream.punct? at hpunct
  split at hpunct
  · rename_i behind hnext
    have hrest := (h.of_next? htokens hnext).2
    split at hpunct
    · simp at hpunct
    · obtain ⟨_, _, _, rfl⟩ : _ ∧ _ ∧ _ ∧ behind = rest := by simpa using hpunct
      exact hrest
  · simp at hpunct

/-- All tokens behind the next lifetime have the property. -/
theorem Hereditary.of_lifetime? {quote : Span} {ident : Ident}
    (hlifetime : tokens.lifetime? = some (quote, ident, rest)) : ∀ tree ∈ rest, holds tree := by
  unfold TokenStream.lifetime? at hlifetime
  split at hlifetime
  · rename_i hnext
    have hbehind := (h.of_next? htokens hnext).2
    split at hlifetime
    · rename_i hword
      obtain ⟨_, _, rfl⟩ : _ ∧ _ ∧ _ = rest := by simpa using hlifetime
      exact (h.of_word? hbehind hword).2
    · simp at hlifetime
  · simp at hlifetime

/-- All tokens in the next group and behind it have the property. -/
theorem Hereditary.of_group? {delimiter : Delimiter} {inner : TokenStream} {span : Span}
    (hgroup : tokens.group? delimiter = some (inner, span, rest)) :
    (∀ tree ∈ inner, holds tree) ∧ ∀ tree ∈ rest, holds tree := by
  unfold TokenStream.group? at hgroup
  split at hgroup
  · split at hgroup
    · obtain ⟨rfl, _, rfl⟩ : _ = inner ∧ _ ∧ _ = rest := by simpa using hgroup
      obtain ⟨hfirst, hrest⟩ := List.forall_mem_cons.mp htokens
      exact ⟨h hfirst, hrest⟩
    · simp at hgroup
  · split at hgroup
    · rename_i hnext
      split at hgroup
      · obtain ⟨rfl, _, rfl⟩ : _ = inner ∧ _ ∧ _ = rest := by simpa using hgroup
        obtain ⟨hfirst, hrest⟩ := h.of_next? htokens hnext
        exact ⟨h hfirst, hrest⟩
      · simp at hgroup
    · simp at hgroup

end Taking

end TokenTree

namespace TokenStream

open TokenTree

/-- Tokens without words that are no identifiers. -/
abbrev Spelled (tokens : TokenStream) : Prop := SpelledAll tokens

/-- Tokens without invisible groups. -/
abbrev Visible (tokens : TokenStream) : Prop := VisibleAll tokens

variable {tokens rest : TokenStream}

/-- The next one of spelled tokens, if it is a word, is an identifier. -/
theorem Spelled.of_word? (h : tokens.Spelled) {ident : Ident}
    (hword : tokens.word? = some (ident, rest)) : ident.IsIdentifier ∧ rest.Spelled := by
  obtain ⟨hident, hrest⟩ := hereditary_spelled.of_word? (spelledAll_iff.mp h) hword
  exact ⟨spelled_ident.mp hident, spelledAll_iff.mpr hrest⟩

/-- The tokens in the next group and behind it are spelled. -/
theorem Spelled.of_group? (h : tokens.Spelled) {delimiter : Delimiter} {inner : TokenStream}
    {span : Span} (hgroup : tokens.group? delimiter = some (inner, span, rest)) :
    inner.Spelled ∧ rest.Spelled := by
  obtain ⟨hinner, hrest⟩ := hereditary_spelled.of_group? (spelledAll_iff.mp h) hgroup
  exact ⟨spelledAll_iff.mpr hinner, spelledAll_iff.mpr hrest⟩

end TokenStream

/-! ### Reading a text -/

namespace Lexer

open Text TokenTree

/-- No text closes an invisible group. -/
theorem ne_invisible_of_piece? {text : List Char} {delimiter : Delimiter} {length : Nat}
    (h : piece? text = some (.closing delimiter, length)) : delimiter ≠ .invisible := by
  have hleaf : leaf? text ≠ some (.closing delimiter, length) := by
    unfold leaf? punct?
    grind
  unfold piece? delimiter? at h
  grind

/-- A property of all trees that are made of the pieces of a text. -/
structure Lexical (holds : TokenTree → Prop) : Prop where
  group : ∀ delimiter inner span, delimiter ≠ .invisible → (∀ tree ∈ inner, holds tree) →
    holds (.group delimiter inner span)
  ident : ∀ name : Ident, name.IsWord → holds (.ident name)
  punct : ∀ char spacing span, holds (.punct char spacing span)
  literal : ∀ text span, IsLiteral text.toList → holds (.literal text span)

namespace Lexical

variable {holds : TokenTree → Prop} (h : Lexical holds)
include h

/-- The tokens of a comment that documents something have the property. -/
theorem docTokens (inner : Bool) (content : List Char) (span : Span) :
    ∀ tree ∈ docTokens inner content span, holds tree := by
  have hletters : isIdentifier "doc".toList = true := by decide
  have hword : Ident.IsWord ⟨"doc", span⟩ := .plain hletters
  have hquoted : IsLiteral (String.ofList (quote content)).toList := by
    rw [String.toList_ofList]
    exact isLiteral_quote content
  have hinner : ∀ tree ∈ [TokenTree.ident ⟨"doc", span⟩, .punct '=' .alone span,
      .literal (String.ofList (quote content)) span], holds tree := by
    simp [h.ident _ hword, h.punct, h.literal _ _ hquoted]
  have hgroup := h.group .bracket _ span (by decide) hinner
  cases inner <;> simp [Lexer.docTokens, h.punct, hgroup]

/-- A piece adds no trees but such. -/
theorem of_place? {text : List Char} {piece : Piece} {length : Nat}
    (hpiece : piece? text = some (piece, length)) {start stop : Position}
    {frames frames' : List Frame} {trees trees' : List TokenTree}
    (hplace : place? piece (text.take length) start stop frames trees = some (frames', trees'))
    (hframes : ∀ frame ∈ frames, ∀ tree ∈ frame.before, holds tree)
    (htrees : ∀ tree ∈ trees, holds tree) :
    (∀ frame ∈ frames', ∀ tree ∈ frame.before, holds tree) ∧ ∀ tree ∈ trees', holds tree := by
  -- A piece opens or closes a group, or adds trees in front of those that are collected so far.
  cases piece with
  | blank =>
    obtain ⟨rfl, rfl⟩ : frames = frames' ∧ trees = trees' := by simpa [place?] using hplace
    exact ⟨hframes, htrees⟩
  | doc inner content =>
    obtain ⟨rfl, rfl⟩ : frames = frames' ∧ _ = trees' := by simpa [place?] using hplace
    refine ⟨hframes, List.forall_mem_append.mpr ⟨fun tree htree => ?_, htrees⟩⟩
    exact h.docTokens inner content ⟨start, stop⟩ tree (List.mem_reverse.mp htree)
  | opening delimiter =>
    obtain ⟨rfl, rfl⟩ : _ = frames' ∧ [] = trees' := by simpa [place?] using hplace
    exact ⟨List.forall_mem_cons.mpr ⟨htrees, hframes⟩, by simp⟩
  | closing delimiter =>
    cases frames with
    | nil => simp [place?] at hplace
    | cons frame frames =>
      obtain ⟨hframe, hrest⟩ := List.forall_mem_cons.mp hframes
      obtain ⟨_, rfl, rfl⟩ : _ ∧ frames = frames' ∧ _ = trees' := by simpa [place?] using hplace
      have hinner : ∀ tree ∈ trees.reverse, holds tree := by simpa using htrees
      have hgroup := h.group delimiter _ ⟨frame.start, stop⟩ (ne_invisible_of_piece? hpiece) hinner
      exact ⟨hrest, List.forall_mem_cons.mpr ⟨hgroup, hframe⟩⟩
  | ident =>
    obtain ⟨rfl, rfl⟩ : frames = frames' ∧ _ = trees' := by simpa [place?] using hplace
    have hfront : Ident.IsWord ⟨String.ofList (text.take length), ⟨start, stop⟩⟩ := by
      rw [Ident.IsWord, String.toList_ofList]
      exact isWord_of_piece? hpiece
    have hword := h.ident _ hfront
    exact ⟨hframes, List.forall_mem_cons.mpr ⟨hword, htrees⟩⟩
  | punct char spacing =>
    obtain ⟨rfl, rfl⟩ : frames = frames' ∧ _ = trees' := by simpa [place?] using hplace
    exact ⟨hframes, List.forall_mem_cons.mpr ⟨h.punct char spacing _, htrees⟩⟩
  | literal =>
    obtain ⟨rfl, rfl⟩ : frames = frames' ∧ _ = trees' := by simpa [place?] using hplace
    have hwritten : IsLiteral (String.ofList (text.take length)).toList := by
      rw [String.toList_ofList]
      exact isLiteral_of_piece? hpiece
    have hliteral := h.literal _ ⟨start, stop⟩ hwritten
    exact ⟨hframes, List.forall_mem_cons.mpr ⟨hliteral, htrees⟩⟩

/-- The property holds of all trees that are read if it holds of those in front of them. -/
theorem of_read {fuel : Nat} {start : Position} {text : List Char} {frames : List Frame}
    {trees : List TokenTree} {tokens : TokenStream}
    (hread : read fuel start text frames trees = .ok tokens)
    (hframes : ∀ frame ∈ frames, ∀ tree ∈ frame.before, holds tree)
    (htrees : ∀ tree ∈ trees, holds tree) : ∀ tree ∈ tokens, holds tree := by
  fun_induction read fuel start text frames trees with
  | case1 fuel start trees =>
    obtain rfl : trees.reverse = tokens := by simpa using hread
    simpa using htrees
  | case2 => simp at hread
  | case3 => simp at hread
  | case4 => simp at hread
  | case5 => simp at hread
  | case6 fuel start c rest frames trees piece length hpiece front stop frames' trees' hplace ih =>
    obtain ⟨hframes', htrees'⟩ := h.of_place? hpiece hplace hframes htrees
    exact ih hread hframes' htrees'

/-- The property holds of all tokens of a text. -/
theorem of_ofChars {text : List Char} {tokens : TokenStream}
    (htokens : TokenStream.ofChars text = .ok tokens) : ∀ tree ∈ tokens, holds tree := by
  have hread {fuel : Nat} {start : Position} {text : List Char}
      (hread : Lexer.read fuel start text [] [] = .ok tokens) : ∀ tree ∈ tokens, holds tree :=
    h.of_read hread (by simp) (by simp)
  unfold TokenStream.ofChars at htokens
  split at htokens
  · split at htokens
    · exact hread htokens
    · exact hread htokens
  · obtain rfl : [] = tokens := by simpa using htokens
    simp

end Lexical

end Lexer

/-- All words of a text are identifiers. -/
theorem TokenStream.spelled_ofChars {text : List Char} {tokens : TokenStream}
    (h : ofChars text = .ok tokens) : tokens.Spelled := by
  have hspelled : Lexer.Lexical TokenTree.Spelled :=
    { group := fun _ _ _ _ hinner =>
        TokenTree.spelled_group.mpr (TokenTree.spelledAll_iff.mpr hinner)
      ident := fun _ hname => TokenTree.spelled_ident.mpr hname.isIdentifier
      punct := fun _ _ _ => TokenTree.spelled_punct
      literal := fun _ _ _ => TokenTree.spelled_literal }
  exact TokenTree.spelledAll_iff.mpr (hspelled.of_ofChars h)

/-- No text holds an invisible group. -/
theorem TokenStream.visible_ofChars {text : List Char} {tokens : TokenStream}
    (h : ofChars text = .ok tokens) : tokens.Visible := by
  have hvisible : Lexer.Lexical TokenTree.Visible :=
    { group := fun _ _ _ hdelimiter hinner =>
        TokenTree.visible_group.mpr ⟨hdelimiter, TokenTree.visibleAll_iff.mpr hinner⟩
      ident := fun _ _ => TokenTree.visible_ident
      punct := fun _ _ _ => TokenTree.visible_punct
      literal := fun _ _ _ => TokenTree.visible_literal }
  exact TokenTree.visibleAll_iff.mpr (hvisible.of_ofChars h)

end ValuedEnum
