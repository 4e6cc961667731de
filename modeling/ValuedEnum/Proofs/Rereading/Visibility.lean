import ValuedEnum.Proofs.Positions.Sources
import ValuedEnum.Proofs.Rereading.Word

/-!
# Reading the text of a visibility

The text of a visibility is that of its tokens without the blanks in its path. No two tokens of the
path fuse without them: the lexer reads the text as the same tokens, wherever they stand.
-/

namespace ValuedEnum

namespace TokenTree

/-- The text of some tokens without any blank. -/
def denseChars (trees : List TokenTree) : List Char :=
  trees.flatMap fun tree => tree.chars.filter (· != ' ')

/-- No tokens have no text. -/
@[simp] theorem denseChars_nil : denseChars [] = [] := rfl

/-- The texts of some tokens follow one another. -/
@[simp] theorem denseChars_cons (tree : TokenTree) (rest : List TokenTree) :
    denseChars (tree :: rest) = tree.chars.filter (· != ' ') ++ denseChars rest := rfl

/-- The texts of two parts follow one another. -/
@[simp] theorem denseChars_append (front back : List TokenTree) :
    denseChars (front ++ back) = denseChars front ++ denseChars back := List.flatMap_append

/-- What stands between two tokens is blank. -/
theorem filter_charsAll (trees : List TokenTree) :
    (charsAll trees).filter (· != ' ') = denseChars trees := by
  have hgap (tree : TokenTree) : tree.gap.filter (· != ' ') = [] := by
    unfold gap
    split <;> rfl
  induction trees with
  | nil => rfl
  | cons tree rest ih =>
    cases rest with
    | nil => simp [charsAll]
    | cons next rest =>
      rw [charsAll, List.filter_append, List.filter_append, hgap, List.append_nil, ih]
      rfl

/-- A word holds no blank, so it is kept as it is. -/
theorem denseChars_ident {name : Ident} (h : name.IsWord) (rest : List TokenTree) :
    denseChars (.ident name :: rest) = name.text.toList ++ denseChars rest := by
  have hall : ∀ c ∈ name.text.toList, (c != ' ') = true := by
    intro c hc
    rw [bne_iff_ne]
    rintro rfl
    exact h.blank_notMem hc
  rw [denseChars_cons, chars, List.filter_eq_self.mpr hall]

/-- The colons of a path have no blank between them. -/
theorem denseChars_colons (span : Span) (rest : List TokenTree) :
    denseChars (Path.colons span ++ rest) = ':' :: ':' :: denseChars rest := rfl

end TokenTree

namespace Lexer

/-- The lexer reads a text as some tokens, up to their positions, and goes on with what stands
behind the text. -/
def Reads (text behind : List Char) (tokens : TokenStream) : Prop :=
  ∀ ⦃fuel : Nat⦄, (text ++ behind).length ≤ fuel → ∀ start frames trees,
    ∃ fuel' start' tokens', behind.length ≤ fuel' ∧ Alike tokens' tokens ∧
      read fuel start (text ++ behind) frames trees =
        read fuel' start' behind frames (tokens'.reverse ++ trees)

variable {text front back behind : List Char} {tokens first second : TokenStream}

/-- Two texts in a row are read as their tokens in a row, the first one in front of the second
one. -/
theorem Reads.append (h : Reads front (back ++ behind) first) (hback : Reads back behind second) :
    Reads (front ++ back) behind (first ++ second) := by
  intro fuel hfuel start frames trees
  rw [List.append_assoc] at hfuel ⊢
  obtain ⟨fuel₁, start₁, tokens₁, hfuel₁, halike₁, hread₁⟩ := h hfuel start frames trees
  obtain ⟨fuel₂, start₂, tokens₂, hfuel₂, halike₂, hread₂⟩ :=
    hback hfuel₁ start₁ frames (tokens₁.reverse ++ trees)
  refine ⟨fuel₂, start₂, tokens₁ ++ tokens₂, hfuel₂, inferInstance, ?_⟩
  rw [hread₁, hread₂, List.reverse_append, List.append_assoc]

/-- A piece that opens or closes nothing adds the same tokens wherever it stands. -/
theorem reads_of_piece? {piece : Piece} (hfilled : text ≠ [])
    (hpiece : piece? (text ++ behind) = some (piece, text.length))
    (hplace : ∀ start stop frames trees, ∃ tokens', Alike tokens' tokens ∧
      place? piece text start stop frames trees = some (frames, tokens'.reverse ++ trees)) :
    Reads text behind tokens := by
  intro fuel hfuel start frames trees
  have hlength : 0 < text.length := List.length_pos_iff.mpr hfilled
  rw [List.length_append] at hfuel
  obtain ⟨fuel, rfl⟩ : ∃ less, fuel = less + 1 := ⟨fuel - 1, by omega⟩
  obtain ⟨tokens', halike, hplaced⟩ := hplace start (start.advance text) frames trees
  refine ⟨fuel, start.advance text, tokens', by omega, halike, ?_⟩
  have htake : (text ++ behind).take text.length = text := List.take_left
  have hread := read_of_piece? hpiece (htake.symm ▸ hplaced) fuel
  rwa [htake, List.drop_left] at hread

/-- The empty text is read as no tokens. -/
theorem reads_nil (behind : List Char) : Reads [] behind [] :=
  fun fuel hfuel start _ _ => ⟨fuel, start, [], hfuel, inferInstance, rfl⟩

/-- A word is read where nothing follows that belongs to it. -/
theorem reads_word {name : Ident} (h : name.IsWord) (hbehind : EndsWord behind) :
    Reads name.text.toList behind [.ident name] := by
  obtain ⟨c, rest, htext, -⟩ := h.exists_cons
  refine reads_of_piece? (by simp [htext]) (h.piece? hbehind) fun start stop frames trees => ?_
  refine ⟨[.ident ⟨name.text, ⟨start, stop⟩⟩], ⟨rfl⟩, ?_⟩
  simp [place?]

/-- A colon is joint in front of another sign, and stands alone otherwise. -/
theorem piece?_colon (behind : List Char) :
    piece? ([':'] ++ behind) =
      some (.punct ':' (if startsSign behind then .joint else .alone), 1) := by
  have hliteral : literalLength? (':' :: behind) = none := by
    refine Option.eq_none_iff_forall_not_mem.mpr fun length hlength => ?_
    obtain ⟨c, rest, htext, hstarts⟩ := startsLiteral_of_literalLength? hlength
    obtain rfl : ':' = c := (List.cons.inj htext).1
    exact absurd hstarts (by decide)
  have hleaf : leaf? (':' :: behind) =
      some (.punct ':' (if startsSign behind then .joint else .alone), 1) := by
    rw [leaf?, hliteral]
    rfl
  exact hleaf

/-- Two colons with no sign behind them are one operator. -/
theorem reads_colons (span : Span) (hbehind : startsSign behind = false) :
    Reads [':', ':'] behind (Path.colons span) := by
  have hfirst : Reads [':'] (':' :: behind) [.punct ':' .joint span] := by
    refine reads_of_piece? (by simp) (piece?_colon _) fun start stop frames trees => ?_
    exact ⟨[.punct ':' .joint ⟨start, stop⟩], ⟨rfl⟩, rfl⟩
  have hsecond : Reads [':'] behind [.punct ':' .alone span] := by
    have hpiece : piece? ([':'] ++ behind) = some (.punct ':' .alone, 1) := by
      rw [piece?_colon, hbehind]
      rfl
    refine reads_of_piece? (by simp) hpiece fun start stop frames trees => ?_
    exact ⟨[.punct ':' .alone ⟨start, stop⟩], ⟨rfl⟩, rfl⟩
  exact hfirst.append hsecond

/-- No sign starts a word. -/
theorem IsWord.startsSign {word : List Char} (h : IsWord word) (behind : List Char) :
    Lexer.startsSign (word ++ behind) = false := by
  obtain ⟨c, rest, rfl, hstart⟩ := h.exists_cons
  simp [Lexer.startsSign, notMem_signs hstart]

/-- A blank is read as no tokens. -/
theorem reads_blank (behind : List Char) : Reads [' '] behind [] := by
  refine reads_of_piece? (by simp) rfl fun start stop frames trees => ?_
  exact ⟨[], inferInstance, rfl⟩

/-- Parentheses around a text are a group, if they are not those of the placeholder. -/
theorem reads_parenthesized (h : Reads text (')' :: behind) tokens)
    (hslash : text.head? ≠ some '/') :
    Reads ('(' :: text ++ [')']) behind (TokenStream.parenthesized tokens) := by
  have hopening : piece? ('(' :: (text ++ ')' :: behind)) = some (.opening .parenthesis, 1) := by
    -- A slash behind the parenthesis could open the placeholder, which is a literal.
    have hplaceholder : placeholder.isPrefixOf ('(' :: (text ++ ')' :: behind)) = false := by
      cases text with
      | nil => rfl
      | cons c rest =>
        rw [Bool.eq_false_iff, Ne, List.isPrefixOf_iff_prefix]
        intro hprefix
        have hinside := (List.cons_prefix_cons.mp hprefix).2
        obtain rfl : '/' = c := (List.cons_prefix_cons.mp hinside).1
        exact hslash rfl
    change (if placeholder.isPrefixOf _ then leaf? _ else some (Piece.opening .parenthesis, 1)) = _
    rw [hplaceholder]
    rfl
  intro fuel hfuel start frames trees
  have htext : '(' :: text ++ [')'] ++ behind = '(' :: (text ++ ')' :: behind) := by simp
  rw [htext] at hfuel ⊢
  obtain ⟨fuel, rfl⟩ : ∃ less, fuel = less + 1 := ⟨fuel - 1, by rw [List.length_cons] at hfuel; omega⟩
  obtain ⟨fuel₁, start₁, inner, hfuel₁, halike, hread₁⟩ := h (Nat.le_of_succ_le_succ hfuel)
    (start.advance ['(']) (⟨.parenthesis, start, trees⟩ :: frames) []
  obtain ⟨fuel₁, rfl⟩ : ∃ less, fuel₁ = less + 1 :=
    ⟨fuel₁ - 1, by rw [List.length_cons] at hfuel₁; omega⟩
  have hclosing : piece? (')' :: behind) = some (.closing .parenthesis, 1) := rfl
  refine ⟨fuel₁, start₁.advance [')'],
    [.group .parenthesis inner ⟨start, start₁.advance [')']⟩], Nat.le_of_succ_le_succ hfuel₁,
    inferInstanceAs (Alike [TokenTree.group _ _ _] [TokenTree.group _ _ _]), ?_⟩
  rw [read_of_piece? hopening rfl]
  refine hread₁.trans ?_
  rw [read_of_piece? hclosing rfl]
  simp

/-- A text that is read in sequence to its end is read as a whole. -/
theorem Reads.ofChars (h : Reads text [] tokens) (hmark : text.head? ≠ some byteOrderMark) :
    ∃ again, TokenStream.ofChars text = .ok again ∧ Alike again tokens := by
  have hlength : (text ++ []).length ≤ text.length := by simp
  obtain ⟨fuel, start, again, -, halike, hread⟩ := h hlength .origin [] []
  rw [List.append_nil, List.append_nil, read_nil, List.reverse_reverse] at hread
  refine ⟨again, ?_, halike⟩
  rw [← hread]
  cases text with
  | nil => rfl
  | cons c rest => exact if_neg fun hc => hmark (by rw [hc]; rfl)

end Lexer

open Lexer TokenTree

/-! ### Paths -/

namespace Path

/-- Behind the first word of a path, colons and words take turns. -/
theorem reads_restTokens {rest : List Ident} (hrest : ∀ ident ∈ rest, ident.IsWord)
    {behind : List Char} (hbehind : EndsWord behind) :
    EndsWord (denseChars (restTokens rest) ++ behind) ∧
      Reads (denseChars (restTokens rest)) behind (restTokens rest) := by
  induction rest with
  | nil => exact ⟨hbehind, reads_nil behind⟩
  | cons ident rest ih =>
    obtain ⟨hident, hrest⟩ := List.forall_mem_cons.mp hrest
    obtain ⟨hends, hreads⟩ := ih hrest
    have hword : Reads (ident.text.toList ++ denseChars (restTokens rest)) behind
        (.ident ident :: restTokens rest) :=
      (reads_word hident hends).append hreads
    have hcolons : Reads [':', ':']
        (ident.text.toList ++ denseChars (restTokens rest) ++ behind) (colons .nowhere) := by
      rw [List.append_assoc]
      exact reads_colons .nowhere (hident.startsSign _)
    rw [restTokens, denseChars_colons, denseChars_ident hident]
    exact ⟨endsWord_cons (by decide) (by decide) _, hcolons.append hword⟩

section

variable {path : Path} (hpath : ∀ ident ∈ path.segments, ident.IsWord)
include hpath

/-- The words of a path do not fuse without blanks between them and the colons. -/
theorem reads_tokens {behind : List Char} (hbehind : EndsWord behind) :
    Reads (denseChars path.tokens) behind path.tokens := by
  obtain ⟨hfirst, hrest⟩ := List.forall_mem_cons.mp hpath
  obtain ⟨hends, hreads⟩ := reads_restTokens hrest hbehind
  have hword : Reads (path.first.text.toList ++ denseChars (restTokens path.rest)) behind
      (.ident path.first :: restTokens path.rest) :=
    (reads_word hfirst hends).append hreads
  unfold tokens
  cases path.leading with
  | none =>
    change Reads (denseChars (.ident path.first :: _)) behind (.ident path.first :: _)
    rwa [denseChars_ident hfirst]
  | some span =>
    have hcolons : Reads [':', ':']
        (path.first.text.toList ++ denseChars (restTokens path.rest) ++ behind) (colons span) := by
      rw [List.append_assoc]
      exact reads_colons span (hfirst.startsSign _)
    change Reads (denseChars (colons span ++ .ident path.first :: _)) behind (colons span ++ _)
    rw [denseChars_colons, denseChars_ident hfirst]
    exact hcolons.append hword

/-- The text of a path does not start like a comment. -/
theorem head?_denseChars_tokens : (denseChars path.tokens).head? ≠ some '/' := by
  obtain ⟨hfirst, -⟩ := List.forall_mem_cons.mp hpath
  unfold tokens
  cases path.leading with
  | some span => exact fun h => absurd (Option.some.inj h) (by decide)
  | none =>
    obtain ⟨c, rest, htext, hstart⟩ := hfirst.exists_cons
    change (denseChars (.ident path.first :: _)).head? ≠ _
    rw [denseChars_ident hfirst, htext]
    rintro h
    obtain rfl : c = '/' := Option.some.inj h
    exact absurd hstart (by decide)

end

end Path

namespace Visibility

/-- The characters between the parentheses of a restriction. -/
def restrictionChars (marked : Bool) (path : Path) : List Char :=
  (if marked then "in".toList ++ [' '] else []) ++ denseChars path.tokens

/-- The text of a restriction stands between parentheses behind `pub`. -/
theorem toList_text_inside (marked : Bool) (path : Path) :
    (inside marked path).text.toList =
      "pub".toList ++ ('(' :: restrictionChars marked path ++ [')']) := by
  cases marked <;> simp [text, pathText, filter_charsAll, restrictionChars]

/-- The words `pub` and `in` are words. -/
theorem isWord_of_isIdentifier {text : String} (h : Text.isIdentifier text.toList = true) :
    Ident.IsWord ⟨text, .nowhere⟩ :=
  .plain h

/-- What stands between the parentheses is read as its tokens. -/
theorem reads_restriction (marked : Bool) {path : Path}
    (hpath : ∀ ident ∈ path.segments, ident.IsWord) {behind : List Char}
    (hbehind : EndsWord behind) :
    Reads (restrictionChars marked path) behind
      ((if marked then TokenStream.word "in" else []) ++ path.tokens) := by
  have hread := Path.reads_tokens hpath hbehind
  cases marked with
  | false => exact hread
  | true =>
    have hin : Ident.IsWord ⟨"in", .nowhere⟩ := isWord_of_isIdentifier (by decide)
    have hends : EndsWord ([' '] ++ (denseChars path.tokens ++ behind)) :=
      endsWord_cons (by decide) (by decide) _
    exact ((reads_word hin hends).append (reads_blank _)).append hread

/-- A visibility whose path consists of words is written as its tokens. -/
theorem ofText_text {visibility : Visibility}
    (h : ∀ marked path, visibility = .inside marked path → ∀ ident ∈ path.segments, ident.IsWord) :
    ∃ tokens, TokenStream.ofText visibility.text = .ok tokens ∧ Alike tokens visibility.tokens := by
  have hpub : Ident.IsWord ⟨"pub", .nowhere⟩ := isWord_of_isIdentifier (by decide)
  cases visibility with
  | inherited => exact ⟨[], rfl, ⟨rfl⟩⟩
  | anywhere => exact (reads_word hpub endsWord_nil).ofChars (by decide)
  | inside marked path =>
    have hpath := h marked path rfl
    have hinner := reads_restriction marked hpath
      (endsWord_cons (c := ')') (by decide) (by decide) [])
    have hslash : (restrictionChars marked path).head? ≠ some '/' := by
      cases marked with
      | false => exact Path.head?_denseChars_tokens hpath
      | true => exact fun h => absurd (Option.some.inj h) (by decide)
    have hends : EndsWord ('(' :: restrictionChars marked path ++ [')'] ++ []) :=
      endsWord_cons (by decide) (by decide) _
    have hreads := (reads_word hpub hends).append (reads_parenthesized hinner hslash)
    rw [TokenStream.ofText, toList_text_inside]
    exact hreads.ofChars fun hmark => absurd (Option.some.inj hmark) (by decide)

end Visibility

end ValuedEnum
