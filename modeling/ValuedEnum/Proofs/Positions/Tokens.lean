import ValuedEnum.Grammar.Terminal
import ValuedEnum.Source.Item
import ValuedEnum.Token.Printer

/-!
# Sources without their positions

Two sources that differ in their layout hold the same things at other positions. `unplaced` forgets
the positions, and two things are alike if nothing else tells them apart. This file says what is
alike, and that a reader finds the next token of alike tokens in the same place.
-/

namespace ValuedEnum

/-- What may hold positions. -/
class Located (α : Type) where
  /-- The same without its positions. -/
  unplaced : α → α

export Located (unplaced)

/-- Two things that are the same but for their positions. -/
class Alike {α : Type} [Located α] (first second : α) : Prop where
  unplaced_eq : unplaced first = unplaced second

/-- Two things that are alike, for statements about all of them. -/
structure Twins (α : Type) [Located α] where
  first : α
  second : α
  alike : Alike first second

instance {α : Type} [Located α] (twins : Twins α) : Alike twins.first twins.second := twins.alike

/-- What holds no positions. -/
class Unlocated (α : Type) [Located α] : Prop where
  unplaced_self : ∀ a : α, unplaced a = a

section

variable {α β ε : Type} [Located α] [Located β] [Located ε]

instance (priority := low) (a : α) : Alike a a := ⟨rfl⟩

/-- Alike things that hold no positions are equal. -/
theorem Alike.eq [h : Unlocated α] {first second : α} (halike : Alike first second) :
    first = second := by
  rw [← h.unplaced_self first, ← h.unplaced_self second]
  exact halike.unplaced_eq

/-- What is the same without positions is the same of alike things. -/
theorem Alike.congr {γ : Type} {first second : α} (h : Alike first second) (f : α → γ)
    (hf : ∀ a, f (unplaced a) = f a) : f first = f second := by
  rw [← hf first, h.unplaced_eq, hf second]

/-- What keeps positions in their places is alike of alike things. -/
theorem Alike.map {first second : α} (h : Alike first second) (f : α → β)
    (hf : ∀ a, f (unplaced a) = unplaced (f a)) : Alike (f first) (f second) :=
  ⟨by rw [← hf first, h.unplaced_eq, hf second]⟩

/-- There is nothing to forget where there are no positions. -/
@[simp] theorem unplaced_self [h : Unlocated α] (a : α) : unplaced a = a := h.unplaced_self a

instance : Located Unit := ⟨fun a => a⟩
instance : Unlocated Unit := ⟨fun _ => rfl⟩
instance : Located Bool := ⟨fun a => a⟩
instance : Unlocated Bool := ⟨fun _ => rfl⟩
instance : Located Nat := ⟨fun a => a⟩
instance : Unlocated Nat := ⟨fun _ => rfl⟩
instance : Located String := ⟨fun a => a⟩
instance : Unlocated String := ⟨fun _ => rfl⟩

instance : Located (List α) := ⟨List.map unplaced⟩
instance : Located (Option α) := ⟨Option.map unplaced⟩
instance : Located (α × β) := ⟨fun pair => (unplaced pair.1, unplaced pair.2)⟩

instance : Located (Except ε α) where
  unplaced
    | .ok result => .ok (unplaced result)
    | .error fault => .error (unplaced fault)

/-- The positions of a list are those of its elements. -/
theorem unplaced_list (all : List α) : unplaced all = all.map unplaced := rfl

/-- The empty list holds no positions. -/
@[simp] theorem unplaced_nil : unplaced ([] : List α) = [] := rfl

/-- The positions of a list are those of its head and its tail. -/
@[simp] theorem unplaced_cons (first : α) (rest : List α) :
    unplaced (first :: rest) = unplaced first :: unplaced rest := rfl

/-- Positions are forgotten on both sides of an append. -/
@[simp] theorem unplaced_append (front back : List α) :
    unplaced (front ++ back) = unplaced front ++ unplaced back := List.map_append

/-- Positions are forgotten in any order. -/
@[simp] theorem unplaced_reverse (all : List α) : unplaced all.reverse = (unplaced all).reverse :=
  List.map_reverse

/-- Where nothing is found there are no positions. -/
@[simp] theorem unplaced_none : unplaced (none : Option α) = none := rfl

/-- The positions of what is found are forgotten inside. -/
@[simp] theorem unplaced_some (a : α) : unplaced (some a) = some (unplaced a) := rfl

/-- The positions of a pair are forgotten on both sides. -/
@[simp] theorem unplaced_pair (a : α) (b : β) : unplaced (a, b) = (unplaced a, unplaced b) := rfl

/-- A result without its positions is still a result. -/
@[simp] theorem unplaced_ok (result : α) :
    unplaced (.ok result : Except ε α) = .ok (unplaced result) := rfl

/-- A fault without its positions is still a fault. -/
@[simp] theorem unplaced_error (fault : ε) :
    unplaced (.error fault : Except ε α) = .error (unplaced fault) := rfl

/-- Alike results are both there or both missing. -/
theorem Alike.results {first second : Except ε α} (h : Alike first second) :
    (∃ result other, first = .ok result ∧ second = .ok other ∧ Alike result other) ∨
      ∃ fault other, first = .error fault ∧ second = .error other ∧ Alike fault other := by
  have heq := h.unplaced_eq
  cases first <;> cases second <;> simp at heq
  · exact .inr ⟨_, _, rfl, rfl, ⟨heq⟩⟩
  · exact .inl ⟨_, _, rfl, rfl, ⟨heq⟩⟩

/-- Alike options are both there or both missing. -/
theorem Alike.options {first second : Option α} (h : Alike first second) :
    (∃ a other, first = some a ∧ second = some other ∧ Alike a other) ∨
      first = none ∧ second = none := by
  have heq := h.unplaced_eq
  cases first <;> cases second <;> simp at heq
  · exact .inr ⟨rfl, rfl⟩
  · exact .inl ⟨_, _, rfl, rfl, ⟨heq⟩⟩

instance {first second : α} [h : Alike first second] : Alike (some first) (some second) :=
  ⟨by simp [h.unplaced_eq]⟩

instance {first second : α} {front back : β} [h : Alike first second] [hrest : Alike front back] :
    Alike (first, front) (second, back) :=
  ⟨by simp [h.unplaced_eq, hrest.unplaced_eq]⟩

instance {first second : α} {rest others : List α} [h : Alike first second]
    [hrest : Alike rest others] : Alike (first :: rest) (second :: others) :=
  ⟨by simp [h.unplaced_eq, hrest.unplaced_eq]⟩

instance {first second back others : List α} [h : Alike first second] [hback : Alike back others] :
    Alike (first ++ back) (second ++ others) :=
  ⟨by simp [h.unplaced_eq, hback.unplaced_eq]⟩

instance {first second : Option α} {preset other : α} [h : Alike first second]
    [hpreset : Alike preset other] : Alike (first.getD preset) (second.getD other) := by
  obtain ⟨_, _, rfl, rfl, hvalue⟩ | ⟨rfl, rfl⟩ := h.options
  · exact hvalue
  · exact hpreset

instance [Unlocated α] : Unlocated (Option α) :=
  ⟨fun found => by cases found <;> simp⟩

instance [Unlocated α] : Unlocated (List α) :=
  ⟨fun all => by rw [unplaced_list, funext unplaced_self, List.map_id']⟩

instance {all others : List α} [h : Alike all others] : Alike all.head? others.head? :=
  h.map List.head? fun _ => List.head?_map

instance {all others : List α} [h : Alike all others] : Alike all.getLast? others.getLast? :=
  h.map List.getLast? fun _ => List.getLast?_map

/-- Alike pairs have alike first parts. -/
theorem Alike.fst {first second : α × β} (h : Alike first second) : Alike first.1 second.1 :=
  h.map Prod.fst fun _ => rfl

/-- Alike pairs have alike second parts. -/
theorem Alike.snd {first second : α × β} (h : Alike first second) : Alike first.2 second.2 :=
  h.map Prod.snd fun _ => rfl

end

/-! ### Tokens -/

instance : Located Span := ⟨fun _ => .nowhere⟩

/-- All positions become the same one. -/
@[simp] theorem unplaced_span (span : Span) : unplaced span = .nowhere := rfl

instance (first second : Span) : Alike first second := ⟨rfl⟩

instance : Located Ident := ⟨fun ident => ⟨ident.text, .nowhere⟩⟩

instance : Located TokenTree := ⟨TokenTree.withSpan .nowhere⟩

instance : Located Lit := ⟨fun lit => ⟨lit.text, .nowhere⟩⟩

namespace TokenTree

/-- To move some trees to no place is to forget their positions. -/
theorem withSpanAll_nowhere (trees : List TokenTree) :
    withSpanAll .nowhere trees = unplaced trees := by
  induction trees with
  | nil => rfl
  | cons tree rest ih =>
    rw [withSpanAll, ih]
    rfl

/-- A group keeps its delimiters and forgets the positions inside of it. -/
@[simp] theorem unplaced_group (delimiter : Delimiter) (inner : List TokenTree) (span : Span) :
    unplaced (group delimiter inner span) = group delimiter (unplaced inner) .nowhere := by
  rw [← withSpanAll_nowhere]
  rfl

/-- A word keeps its text. -/
@[simp] theorem unplaced_ident (name : Ident) : unplaced (ident name) = ident (unplaced name) := rfl

/-- A sign keeps its character and its spacing. -/
@[simp] theorem unplaced_punct (char : Char) (spacing : Spacing) (span : Span) :
    unplaced (punct char spacing span) = punct char spacing .nowhere := rfl

/-- A literal keeps its text. -/
@[simp] theorem unplaced_literal (text : String) (span : Span) :
    unplaced (literal text span) = literal text .nowhere := rfl

mutual

/-- A tree that moves elsewhere is the same tree apart from its positions. -/
theorem unplaced_withSpan (span : Span) (tree : TokenTree) :
    unplaced (tree.withSpan span) = unplaced tree := by
  cases tree with
  | group delimiter inner _ =>
    rw [withSpan, unplaced_group, unplaced_group, unplaced_withSpanAll]
  | _ => rfl

/-- Moved tokens are the same but for their positions. -/
theorem unplaced_withSpanAll (span : Span) (trees : List TokenTree) :
    unplaced (withSpanAll span trees) = unplaced trees := by
  cases trees with
  | nil => rfl
  | cons tree rest =>
    rw [withSpanAll, unplaced_cons, unplaced_cons, unplaced_withSpan, unplaced_withSpanAll]

end

mutual

/-- The size of a tree does not depend on positions. -/
theorem size_unplaced (tree : TokenTree) : (unplaced tree).size = tree.size := by
  cases tree with
  | group delimiter inner span => rw [unplaced_group, size, size, sizeAll_unplaced]
  | _ => rfl

/-- Positions do not count. -/
theorem sizeAll_unplaced (trees : List TokenTree) : sizeAll (unplaced trees) = sizeAll trees := by
  cases trees with
  | nil => rfl
  | cons tree rest => rw [unplaced_cons, sizeAll, sizeAll, size_unplaced, sizeAll_unplaced]

end

mutual

/-- Invisible groups are opened without a look at positions. -/
theorem exposed_unplaced (tree : TokenTree) (rest : List TokenTree) :
    (unplaced tree).exposed (unplaced rest) = unplaced (tree.exposed rest) := by
  cases tree with
  | group delimiter inner span =>
    cases delimiter with
    | invisible =>
      rw [unplaced_group, exposed, exposed, exposedAll_unplaced]
      cases exposedAll inner <;> simp
    | _ => simp [exposed]
  | _ => simp [exposed]

/-- Groups are looked through wherever they stand. -/
theorem exposedAll_unplaced (trees : List TokenTree) :
    exposedAll (unplaced trees) = unplaced (exposedAll trees) := by
  cases trees with
  | nil => rfl
  | cons tree rest =>
    rw [unplaced_cons, exposedAll, exposedAll, exposed_unplaced, exposedAll_unplaced]
    cases exposed tree rest <;> simp

end

end TokenTree

namespace TokenTree

/-- What separates a tree from the next one does not depend on its position. -/
theorem gap_unplaced (tree : TokenTree) : (unplaced tree).gap = tree.gap := by
  cases tree with
  | punct char spacing span => cases spacing <;> rfl
  | group delimiter inner span => rw [unplaced_group]; rfl
  | _ => rfl

mutual

/-- A tree is printed without its positions. -/
theorem chars_unplaced (tree : TokenTree) : (unplaced tree).chars = tree.chars := by
  cases tree with
  | group delimiter inner span =>
    rw [unplaced_group]
    cases delimiter with
    | brace =>
      cases inner with
      | nil => rfl
      | cons first rest =>
        rw [unplaced_cons, chars, ← unplaced_cons, charsAll_unplaced, chars]
    | _ => rw [chars, chars, charsAll_unplaced]
  | _ => rfl

/-- Positions are not printed. -/
theorem charsAll_unplaced (trees : List TokenTree) : charsAll (unplaced trees) = charsAll trees := by
  cases trees with
  | nil => rfl
  | cons first rest =>
    cases rest with
    | nil => rw [unplaced_cons, unplaced_nil, charsAll, charsAll, chars_unplaced]
    | cons second rest =>
      rw [unplaced_cons, unplaced_cons, charsAll, ← unplaced_cons, charsAll_unplaced,
        chars_unplaced, gap_unplaced, charsAll]

end

end TokenTree

instance : Located Char := ⟨fun a => a⟩
instance : Unlocated Char := ⟨fun _ => rfl⟩
instance : Located Spacing := ⟨fun a => a⟩
instance : Unlocated Spacing := ⟨fun _ => rfl⟩
instance : Located Delimiter := ⟨fun a => a⟩
instance : Unlocated Delimiter := ⟨fun _ => rfl⟩

namespace TokenStream

variable (tokens : TokenStream)

/-- The next visible token is the same without positions. -/
theorem next?_unplaced : next? (unplaced tokens) = unplaced tokens.next? := by
  rw [next?, next?, TokenTree.exposedAll_unplaced]
  cases TokenTree.exposedAll tokens with
  | none => rfl
  | some trees => cases trees <;> simp

/-- The next word is the same without positions. -/
theorem word?_unplaced : word? (unplaced tokens) = unplaced tokens.word? := by
  rw [word?, word?, next?_unplaced]
  cases tokens.next? with
  | none => rfl
  | some read => obtain ⟨tree, rest⟩ := read; cases tree <;> simp

/-- The next sign is the same without positions. -/
theorem punct?_unplaced : punct? (unplaced tokens) = unplaced tokens.punct? := by
  rw [punct?, punct?, next?_unplaced]
  cases tokens.next? with
  | none => rfl
  | some read =>
    obtain ⟨tree, rest⟩ := read
    cases tree with
    | punct char spacing span => by_cases hquote : char = '\x27' <;> simp [hquote]
    | _ => simp

/-- The next operator is the same without positions. -/
theorem sign?_unplaced (text : List Char) :
    sign? text (unplaced tokens) = unplaced (tokens.sign? text) := by
  induction text generalizing tokens with
  | nil => rfl
  | cons c more ih =>
    rw [sign?, sign?, punct?_unplaced]
    cases tokens.punct? with
    | none => rfl
    | some read =>
      obtain ⟨char, spacing, span, rest⟩ := read
      simp only [unplaced_some, unplaced_pair]
      change (if (char = c && (more.isEmpty || spacing = .joint)) = true then
        (sign? more (unplaced rest)).map fun read => (Span.nowhere :: read.1, read.2) else none) = _
      split
      · rw [ih]
        cases sign? more rest <;> rfl
      · rfl

/-- The next lifetime is the same without positions. -/
theorem lifetime?_unplaced : lifetime? (unplaced tokens) = unplaced tokens.lifetime? := by
  rw [lifetime?, lifetime?, next?_unplaced]
  cases tokens.next? with
  | none => rfl
  | some read =>
    obtain ⟨tree, rest⟩ := read
    cases tree with
    | punct char spacing span =>
      by_cases hquote : char = '\x27' ∧ spacing = .joint
      · obtain ⟨rfl, rfl⟩ := hquote
        simp only [unplaced_some, unplaced_pair, TokenTree.unplaced_punct, word?_unplaced]
        cases rest.word? <;> rfl
      · simp only [unplaced_some, unplaced_pair, TokenTree.unplaced_punct]
        split <;> split <;> simp_all
    | _ => simp

/-- The next literal is the same without positions. -/
theorem lit?_unplaced : lit? (unplaced tokens) = unplaced tokens.lit? := by
  rw [lit?, lit?, next?_unplaced]
  cases tokens.next? with
  | none => rfl
  | some read =>
    obtain ⟨tree, rest⟩ := read
    cases tree with
    | ident name =>
      by_cases htruth : (name.text = "true" || name.text = "false") = true
      · simp only [unplaced_some, unplaced_pair, TokenTree.unplaced_ident, htruth, if_true]
        exact if_pos htruth
      · simp only [unplaced_some, unplaced_pair, TokenTree.unplaced_ident, htruth]
        exact if_neg htruth
    | literal text span => rfl
    | _ => simp

/-- The next negative number is the same without positions. -/
theorem negative?_unplaced : negative? (unplaced tokens) = unplaced tokens.negative? := by
  rw [negative?, negative?, punct?_unplaced]
  cases tokens.punct? with
  | none => rfl
  | some read =>
    obtain ⟨char, spacing, span, rest⟩ := read
    by_cases hminus : char = '-'
    · subst hminus
      simp only [unplaced_some, unplaced_pair, unplaced_self, next?_unplaced]
      cases rest.next? with
      | none => rfl
      | some behind =>
        obtain ⟨tree, rest⟩ := behind
        cases tree with
        | literal text span =>
          by_cases hnumber : Lit.isNumber ⟨text, span⟩ = true
          · simp only [unplaced_some, unplaced_pair, TokenTree.unplaced_literal, hnumber, if_true]
            exact if_pos hnumber
          · simp only [unplaced_some, unplaced_pair, TokenTree.unplaced_literal, hnumber]
            exact if_neg hnumber
        | _ => simp
    · simp only [unplaced_some, unplaced_pair, unplaced_self]
      split <;> split <;> simp_all

/-- The next group is the same without positions. -/
theorem group?_unplaced (delimiter : Delimiter) :
    group? delimiter (unplaced tokens) = unplaced (tokens.group? delimiter) := by
  unfold group?
  split
  · cases tokens with
    | nil => rfl
    | cons tree rest =>
      cases tree with
      | group found inner span => cases found <;> simp
      | _ => simp
  · rw [next?_unplaced]
    cases tokens.next? with
    | none => rfl
    | some read =>
      obtain ⟨tree, rest⟩ := read
      cases tree with
      | group found inner span =>
        by_cases hfound : found = delimiter <;> simp [hfound]
      | _ => simp

/-- A sign is skipped on its own if it does not start a lifetime. -/
theorem skip?_punct {char : Char} {spacing : Spacing}
    (hquote : ¬ (char = '\x27' ∧ spacing = .joint)) (span : Span) (rest : TokenStream) :
    skip? (.punct char spacing span :: rest) = some rest := by
  unfold skip?
  split <;> simp_all

/-- What follows the next tree is the same without positions. -/
theorem skip?_unplaced : skip? (unplaced tokens) = unplaced tokens.skip? := by
  cases tokens with
  | nil => rfl
  | cons tree rest =>
    cases rest with
    | nil => cases tree <;> simp [skip?]
    | cons second rest =>
      rw [unplaced_cons, unplaced_cons]
      cases tree with
      | punct char spacing span =>
        by_cases hquote : char = '\x27' ∧ spacing = .joint
        · obtain ⟨rfl, rfl⟩ := hquote
          cases second <;> simp [skip?]
        · rw [TokenTree.unplaced_punct, skip?_punct hquote, skip?_punct hquote]
          simp
      | _ => simp [skip?]

/-- The kind of the next token does not depend on positions. -/
theorem starts_unplaced (terminal : Terminal) :
    terminal.starts (unplaced tokens) = terminal.starts tokens := by
  cases terminal with
  | word text =>
    rw [Terminal.starts, Terminal.starts, word?_unplaced]
    cases tokens.word? <;> rfl
  | sign text =>
    rw [Terminal.starts, Terminal.starts, sign?_unplaced]
    cases tokens.sign? text.toList <;> rfl
  | underscore =>
    rw [Terminal.starts, Terminal.starts, word?_unplaced]
    cases tokens.word? <;> rfl
  | name =>
    rw [Terminal.starts, Terminal.starts, word?_unplaced]
    cases tokens.word? <;> rfl
  | anyWord =>
    rw [Terminal.starts, Terminal.starts, word?_unplaced]
    cases tokens.word? <;> rfl
  | lifetime =>
    rw [Terminal.starts, Terminal.starts, lifetime?_unplaced]
    cases tokens.lifetime? <;> rfl
  | literal =>
    rw [Terminal.starts, Terminal.starts, lit?_unplaced, negative?_unplaced]
    cases tokens.lit? <;> cases tokens.negative? <;> rfl
  | string =>
    rw [Terminal.starts, Terminal.starts, lit?_unplaced]
    cases tokens.lit? <;> rfl
  | integer =>
    rw [Terminal.starts, Terminal.starts, lit?_unplaced]
    cases tokens.lit? <;> rfl
  | float =>
    rw [Terminal.starts, Terminal.starts, lit?_unplaced]
    cases tokens.lit? <;> rfl
  | delimited kind =>
    rw [Terminal.starts, Terminal.starts, group?_unplaced]
    cases tokens.group? kind <;> rfl

/-- The same is true behind a token, if there is one. -/
theorem any_starts_unplaced (tokens : Option TokenStream) (terminal : Terminal) :
    (unplaced tokens).any terminal.starts = tokens.any terminal.starts := by
  cases tokens with
  | none => rfl
  | some tokens => exact starts_unplaced tokens terminal

/-- What follows two trees is the same without positions. -/
theorem bind_skip?_unplaced (tokens : Option TokenStream) :
    (unplaced tokens).bind skip? = unplaced (tokens.bind skip?) := by
  cases tokens with
  | none => rfl
  | some tokens => exact skip?_unplaced tokens

/-- The kind of the second token does not depend on positions. -/
theorem secondIs_unplaced (terminal : Terminal) :
    secondIs (unplaced tokens) terminal = tokens.secondIs terminal := by
  unfold secondIs
  rw [skip?_unplaced, any_starts_unplaced]
  cases tokens with
  | nil => rfl
  | cons tree rest =>
    cases tree with
    | group delimiter inner span =>
      cases delimiter with
      | invisible =>
        simp only [unplaced_cons, TokenTree.unplaced_group]
        rw [← unplaced_append, skip?_unplaced, any_starts_unplaced]
      | _ => simp
    | _ => simp

/-- The kind of the third token does not depend on positions. -/
theorem thirdIs_unplaced (terminal : Terminal) :
    thirdIs (unplaced tokens) terminal = tokens.thirdIs terminal := by
  unfold thirdIs
  rw [skip?_unplaced, bind_skip?_unplaced, any_starts_unplaced]
  cases tokens with
  | nil => rfl
  | cons tree rest =>
    cases tree with
    | group delimiter inner span =>
      cases delimiter with
      | invisible =>
        simp only [unplaced_cons, TokenTree.unplaced_group]
        rw [← unplaced_append, skip?_unplaced, bind_skip?_unplaced, any_starts_unplaced]
      | _ => simp
    | _ => simp

end TokenStream

/-! ### Looking at alike tokens -/

instance {first second third fourth : Bool} [h : Alike first second] [hrest : Alike third fourth] :
    Alike (first && third) (second && fourth) := by
  rw [h.eq, hrest.eq]
  infer_instance

instance {first second third fourth : Bool} [h : Alike first second] [hrest : Alike third fourth] :
    Alike (first || third) (second || fourth) := by
  rw [h.eq, hrest.eq]
  infer_instance

instance {first second : Bool} [h : Alike first second] : Alike (!first) (!second) := by
  rw [h.eq]
  infer_instance

instance {α : Type} [Located α] (seen other : Bool) (first second third fourth : α)
    [hseen : Alike seen other] [h : Alike first second] [hrest : Alike third fourth] :
    Alike (if seen = true then first else third) (if other = true then second else fourth) := by
  rw [hseen.eq]
  split
  · exact h
  · exact hrest

instance {α : Type} (all : List α) (first second : α → Bool)
    [h : ∀ a, Alike (first a) (second a)] : Alike (all.any first) (all.any second) := by
  rw [funext fun a => (h a).eq]
  infer_instance

/-- Alike tokens have the same text. -/
theorem Alike.printed_eq {tokens others : TokenStream} (h : Alike tokens others) :
    tokens.text = others.text :=
  h.congr TokenStream.text fun tokens => congrArg String.ofList (TokenTree.charsAll_unplaced tokens)

section

variable {tokens others : TokenStream} [h : Alike tokens others]
include h

/-- Alike tokens have one size, so a reader has the same bound for both. -/
theorem Alike.sizeAll_eq : TokenTree.sizeAll tokens = TokenTree.sizeAll others :=
  h.congr TokenTree.sizeAll TokenTree.sizeAll_unplaced

/-- Alike tokens start with the same kind of token. -/
theorem Alike.startsWith_eq (terminal : Terminal) :
    tokens.startsWith terminal = others.startsWith terminal :=
  h.congr terminal.starts (TokenStream.starts_unplaced · terminal)

instance (terminal : Terminal) : Alike (tokens.startsWith terminal) (others.startsWith terminal) :=
  ⟨h.startsWith_eq terminal⟩

instance (terminal : Terminal) : Alike (tokens.secondIs terminal) (others.secondIs terminal) :=
  h.map (·.secondIs terminal) (TokenStream.secondIs_unplaced · terminal)

instance (terminal : Terminal) : Alike (tokens.thirdIs terminal) (others.thirdIs terminal) :=
  h.map (·.thirdIs terminal) (TokenStream.thirdIs_unplaced · terminal)

/-- Alike tokens start with alike words, or both with none. -/
theorem Alike.word? : Alike tokens.word? others.word? :=
  h.map TokenStream.word? TokenStream.word?_unplaced

/-- Alike tokens start with alike signs, or both with none. -/
theorem Alike.punct? : Alike tokens.punct? others.punct? :=
  h.map TokenStream.punct? TokenStream.punct?_unplaced

/-- Alike tokens start with the same operator, or both do not. -/
theorem Alike.sign? (text : List Char) : Alike (tokens.sign? text) (others.sign? text) :=
  h.map (TokenStream.sign? text) (TokenStream.sign?_unplaced · text)

/-- Alike tokens start with alike lifetimes, or both with none. -/
theorem Alike.lifetime? : Alike tokens.lifetime? others.lifetime? :=
  h.map TokenStream.lifetime? TokenStream.lifetime?_unplaced

/-- Alike tokens start with alike literals, or both with none. -/
theorem Alike.lit? : Alike tokens.lit? others.lit? :=
  h.map TokenStream.lit? TokenStream.lit?_unplaced

/-- Alike tokens start with alike negative numbers, or both with none. -/
theorem Alike.negative? : Alike tokens.negative? others.negative? :=
  h.map TokenStream.negative? TokenStream.negative?_unplaced

/-- Alike tokens start with alike groups, or both with none. -/
theorem Alike.group? (delimiter : Delimiter) :
    Alike (tokens.group? delimiter) (others.group? delimiter) :=
  h.map (TokenStream.group? delimiter) (TokenStream.group?_unplaced · delimiter)

end

/-- Alike identifiers are spelled alike. -/
theorem Alike.text_eq {ident other : Ident} (h : Alike ident other) : ident.text = other.text :=
  h.congr Ident.text fun _ => rfl

instance {ident other : Ident} [h : Alike ident other] : Alike ident.isName other.isName := by
  rw [Ident.isName, Ident.isName, h.text_eq]
  infer_instance

/-- Alike literals are spelled alike. -/
theorem Alike.lit_text_eq {lit other : Lit} (h : Alike lit other) : lit.text = other.text :=
  h.congr Lit.text fun _ => rfl

/-- Alike lists have alike heads. -/
theorem Alike.head {α : Type} [Located α] {first second : α} {rest others : List α}
    (h : Alike (first :: rest) (second :: others)) : Alike first second :=
  ⟨(List.cons.inj h.unplaced_eq).1⟩

/-- Alike lists have alike tails. -/
theorem Alike.tail {α : Type} [Located α] {first second : α} {rest others : List α}
    (h : Alike (first :: rest) (second :: others)) : Alike rest others :=
  ⟨(List.cons.inj h.unplaced_eq).2⟩

instance {α : Type} [Located α] {all others : List α} [h : Alike all others] :
    Alike all.isEmpty others.isEmpty :=
  h.map List.isEmpty fun _ => List.isEmpty_map

/-- Alike lists are both empty or both not. -/
theorem Alike.lists {α : Type} [Located α] {all others : List α} (h : Alike all others) :
    (∃ first rest second back, all = first :: rest ∧ others = second :: back ∧
        Alike first second ∧ Alike rest back) ∨ all = [] ∧ others = [] := by
  cases all with
  | nil =>
    cases others with
    | nil => exact .inr ⟨rfl, rfl⟩
    | cons second back => simpa using h.unplaced_eq
  | cons first rest =>
    cases others with
    | nil => simpa using h.unplaced_eq
    | cons second back => exact .inl ⟨first, rest, second, back, rfl, rfl, h.head, h.tail⟩

/-- What holds of empty lists and goes on with alike elements holds of alike lists. -/
@[elab_as_elim] theorem Alike.induction {α : Type} [Located α]
    {motive : ∀ all others : List α, Alike all others → Prop}
    (nil : motive [] [] inferInstance)
    (cons : ∀ (first second : α) (rest others : List α) (_ : Alike first second)
      (hrest : Alike rest others), motive rest others hrest →
        motive (first :: rest) (second :: others) inferInstance)
    {all others : List α} (h : Alike all others) : motive all others h := by
  induction all generalizing others with
  | nil =>
    obtain ⟨_, _, _, _, hcons, _⟩ | ⟨_, rfl⟩ := h.lists
    · simp at hcons
    · exact nil
  | cons first rest ih =>
    obtain ⟨_, _, _, _, hcons, rfl, hfirst, hrest⟩ | ⟨hnil, _⟩ := h.lists
    · obtain ⟨rfl, rfl⟩ := List.cons.inj hcons
      exact cons _ _ _ _ hfirst hrest (ih hrest)
    · simp at hnil

section

variable {α β : Type} [Located α] [Located β] {all others : List α} [h : Alike all others]

instance (wanted also : α → Bool)
    [hwanted : ∀ twins : Twins α, Alike (wanted twins.first) (also twins.second)] :
    Alike (all.filter wanted) (others.filter also) := by
  induction h using Alike.induction with
  | nil => exact ⟨rfl⟩
  | cons first second rest others hfirst hrest ih =>
    have hseen : Alike (wanted first) (also second) := hwanted ⟨first, second, hfirst⟩
    rw [List.filter_cons, List.filter_cons]
    infer_instance

instance (found another : Option α) (wanted also : α → Bool) [hfound : Alike found another]
    [hwanted : ∀ twins : Twins α, Alike (wanted twins.first) (also twins.second)] :
    Alike (found.any wanted) (another.any also) := by
  obtain ⟨first, second, rfl, rfl, hfirst⟩ | ⟨rfl, rfl⟩ := hfound.options
  · exact hwanted ⟨first, second, hfirst⟩
  · exact ⟨rfl⟩

instance (found another : Option α) (map also : α → β) [hfound : Alike found another]
    [hmap : ∀ twins : Twins α, Alike (map twins.first) (also twins.second)] :
    Alike (found.map map) (another.map also) := by
  obtain ⟨first, second, rfl, rfl, hfirst⟩ | ⟨rfl, rfl⟩ := hfound.options
  · have hresult : Alike (map first) (also second) := hmap ⟨first, second, hfirst⟩
    exact inferInstanceAs (Alike (some (map first)) (some (also second)))
  · exact ⟨rfl⟩

instance (found another : Option α) [hfound : Alike found another] :
    Alike found.isSome another.isSome := by
  obtain ⟨first, second, rfl, rfl, _⟩ | ⟨rfl, rfl⟩ := hfound.options
  · exact ⟨rfl⟩
  · exact ⟨rfl⟩

instance (wanted also : α → Bool)
    [hwanted : ∀ twins : Twins α, Alike (wanted twins.first) (also twins.second)] :
    Alike (all.all wanted) (others.all also) := by
  induction h using Alike.induction with
  | nil => exact ⟨rfl⟩
  | cons first second rest others hfirst hrest ih =>
    have hseen : Alike (wanted first) (also second) := hwanted ⟨first, second, hfirst⟩
    rw [List.all_cons, List.all_cons]
    infer_instance

instance (map also : α → β) [hmap : ∀ twins : Twins α, Alike (map twins.first) (also twins.second)] :
    Alike (all.map map) (others.map also) := by
  induction h using Alike.induction with
  | nil => exact ⟨rfl⟩
  | cons first second rest others hfirst hrest ih =>
    have hfirst' : Alike (map first) (also second) := hmap ⟨first, second, hfirst⟩
    rw [List.map_cons, List.map_cons]
    infer_instance

instance (map also : α → Option β)
    [hmap : ∀ twins : Twins α, Alike (map twins.first) (also twins.second)] :
    Alike (all.filterMap map) (others.filterMap also) := by
  induction h using Alike.induction with
  | nil => exact ⟨rfl⟩
  | cons first second rest others hfirst hrest ih =>
    have hfound : Alike (map first) (also second) := hmap ⟨first, second, hfirst⟩
    obtain ⟨result, result', hresult, hresult', halike⟩ | ⟨hnone, hnone'⟩ := hfound.options
    · rw [List.filterMap_cons_some hresult, List.filterMap_cons_some hresult']
      infer_instance
    · rw [List.filterMap_cons_none hnone, List.filterMap_cons_none hnone']
      exact ih

instance (map also : α → List β)
    [hmap : ∀ twins : Twins α, Alike (map twins.first) (also twins.second)] :
    Alike (all.flatMap map) (others.flatMap also) := by
  induction h using Alike.induction with
  | nil => exact ⟨rfl⟩
  | cons first second rest others hfirst hrest ih =>
    have hfirst' : Alike (map first) (also second) := hmap ⟨first, second, hfirst⟩
    rw [List.flatMap_cons, List.flatMap_cons]
    infer_instance

end

/-- Alike lists have one length. -/
theorem Alike.length_eq {α : Type} [Located α] {all others : List α} (h : Alike all others) :
    all.length = others.length :=
  h.congr List.length fun _ => List.length_map unplaced

instance {ident other : Ident} [h : Alike ident other] :
    Alike (TokenTree.ident ident) (.ident other) :=
  ⟨by simp [h.unplaced_eq]⟩

instance (char : Char) (spacing : Spacing) (first second : Span) :
    Alike (TokenTree.punct char spacing first) (.punct char spacing second) := ⟨rfl⟩

instance (text : String) (first second : Span) :
    Alike (TokenTree.literal text first) (.literal text second) := ⟨rfl⟩

instance (delimiter : Delimiter) {inner other : List TokenTree} (first second : Span)
    [h : Alike inner other] :
    Alike (TokenTree.group delimiter inner first) (.group delimiter other second) :=
  ⟨by simp [h.unplaced_eq]⟩

section

variable {tokens others : TokenStream} [h : Alike tokens others]

instance : Alike (TokenStream.angled tokens) (.angled others) :=
  inferInstanceAs (Alike (TokenStream.sign "<" ++ tokens ++ TokenStream.sign ">")
    (TokenStream.sign "<" ++ others ++ TokenStream.sign ">"))

instance : Alike (TokenStream.parenthesized tokens) (.parenthesized others) :=
  inferInstanceAs (Alike [TokenTree.group .parenthesis tokens .nowhere]
    [TokenTree.group .parenthesis others .nowhere])

instance : Alike (TokenStream.bracketed tokens) (.bracketed others) :=
  inferInstanceAs (Alike [TokenTree.group .bracket tokens .nowhere]
    [TokenTree.group .bracket others .nowhere])

instance : Alike (TokenStream.braced tokens) (.braced others) :=
  inferInstanceAs (Alike [TokenTree.group .brace tokens .nowhere]
    [TokenTree.group .brace others .nowhere])

end

instance (text : String) (first second : Span) : Alike (⟨text, first⟩ : Lit) ⟨text, second⟩ := ⟨rfl⟩

/-- Alike trees are groups with the same delimiters, or both no groups. -/
theorem Alike.groups {tree other : TokenTree} (h : Alike tree other) :
    (∃ delimiter inner span content another, tree = .group delimiter inner span ∧
        other = .group delimiter content another) ∨
      (∀ delimiter inner span, tree ≠ .group delimiter inner span) ∧
        ∀ delimiter inner span, other ≠ .group delimiter inner span := by
  have heq := h.unplaced_eq
  cases tree with
  | group delimiter inner span =>
    cases other with
    | group found content another =>
      obtain ⟨rfl, _⟩ : delimiter = found ∧ unplaced inner = unplaced content := by simpa using heq
      exact .inl ⟨delimiter, inner, span, content, another, rfl, rfl⟩
    | _ => simp at heq
  | _ =>
    cases other with
    | group found content another => simp at heq
    | _ => exact .inr ⟨by simp, by simp⟩

/-- The tokens of a literal are at its position. -/
theorem Lit.tokens_unplaced (lit : Lit) : (unplaced lit).tokens = unplaced lit.tokens := by
  have hkind : (unplaced lit).kind = lit.kind := rfl
  unfold tokens token
  rw [hkind]
  split <;> rfl

instance {lit other : Lit} [h : Alike lit other] : Alike lit.tokens other.tokens :=
  h.map Lit.tokens Lit.tokens_unplaced

/-- Alike tokens start with an invisible group, both of them or none. -/
theorem Alike.invisible {tokens others : TokenStream} (h : Alike tokens others) :
    (∃ inner span rest other another back, tokens = .group .invisible inner span :: rest ∧
        others = .group .invisible other another :: back ∧ Alike inner other ∧ Alike rest back) ∨
      (∀ inner span rest, tokens ≠ .group .invisible inner span :: rest) ∧
        ∀ inner span rest, others ≠ .group .invisible inner span :: rest := by
  have heq := h.unplaced_eq
  cases tokens with
  | nil =>
    cases others with
    | nil => exact .inr ⟨by simp, by simp⟩
    | cons other back => simp at heq
  | cons tree rest =>
    cases others with
    | nil => simp at heq
    | cons other back =>
      obtain ⟨htree, hrest⟩ := List.cons.inj heq
      by_cases hgroup : ∃ inner span, tree = .group .invisible inner span
      · obtain ⟨inner, span, rfl⟩ := hgroup
        rw [TokenTree.unplaced_group] at htree
        cases other with
        | group delimiter content another =>
          obtain ⟨rfl, hinner⟩ : Delimiter.invisible = delimiter ∧
              unplaced inner = unplaced content := by
            simpa using htree
          exact .inl ⟨inner, span, rest, content, another, back, rfl, rfl, ⟨hinner⟩, ⟨hrest⟩⟩
        | _ => simp at htree
      · refine .inr ⟨fun inner span rest hcons => hgroup ⟨inner, span, (List.cons.inj hcons).1⟩, ?_⟩
        intro inner span rest hcons
        obtain ⟨rfl, rfl⟩ := List.cons.inj hcons
        rw [TokenTree.unplaced_group] at htree
        cases tree with
        | group delimiter content another =>
          obtain ⟨rfl, _⟩ : delimiter = .invisible ∧ _ := by simpa using htree
          exact hgroup ⟨content, another, rfl⟩
        | _ => simp at htree

end ValuedEnum
