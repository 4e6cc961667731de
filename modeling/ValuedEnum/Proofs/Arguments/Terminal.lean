import ValuedEnum.Proofs.Placement.Parser
import ValuedEnum.Proofs.Values
import ValuedEnum.WrapperOptions

/-!
# What single readers take

Without invisible groups, a reader of one token takes the first one. Each statement here says when
such a reader succeeds and where it goes on: for names, signs and truth values, and for the name of
a wrapper, which may be the text of a string literal.
-/

namespace ValuedEnum

/-- A reading that goes on behind some tokens, with what was printed for them. -/
def Reading.advanced (reading : Reading) (rest tokens : TokenStream) : Reading :=
  { reading with rest := rest, printed := tokens.reverse ++ reading.printed }

/-- Two steps forward are one. -/
@[simp] theorem Reading.advanced_advanced (reading : Reading)
    (first second front back : TokenStream) :
    (reading.advanced first front).advanced second back =
      reading.advanced second (front ++ back) := by
  simp [Reading.advanced]

namespace Parser

variable {α β : Type} {scope : Scope} {reading done : Reading}

/-- Two parsers in a row succeed if the second one does where the first one ended. -/
theorem bind_eq_ok_iff {parser : Parser α} {next : α → Parser β} {result : β} :
    (parser >>= next) scope reading = .ok (result, done) ↔
      ∃ first between, parser scope reading = .ok (first, between) ∧
        next first scope between = .ok (result, done) := by
  rw [bind_apply]
  cases parser scope reading with
  | error problem => simp
  | ok read =>
    constructor
    · exact fun hrun => ⟨read.1, read.2, rfl, hrun⟩
    · rintro ⟨first, between, hread, hrun⟩
      cases hread
      exact hrun

/-- To return something takes no tokens. -/
theorem pure_eq_ok_iff {value result : α} :
    (pure value : Parser α) scope reading = .ok (result, done) ↔
      value = result ∧ reading = done := by
  have hpure : (pure value : Parser α) scope reading = .ok (value, reading) := rfl
  simp [hpure]

/-- A parser that never succeeds has no result. -/
theorem Fails.ne_ok {parser : Parser α} (h : parser.Fails) {result : α} :
    parser scope reading ≠ .ok (result, done) := by
  intro hrun
  have hnone := h scope reading
  simp [hrun, Except.toOption] at hnone

/-- The tokens that are left are handed on. -/
theorem remaining_bind (next : TokenStream → Parser α) (scope : Scope) (reading : Reading) :
    (remaining >>= next) scope reading = next reading.rest scope reading := by
  exact rfl

/-- Whether any tokens are left is handed on. -/
theorem atEnd_bind (next : Bool → Parser α) (scope : Scope) (reading : Reading) :
    (atEnd >>= next) scope reading = next reading.rest.isEmpty scope reading := by
  exact rfl

/-- Whether a token of a kind comes next is handed on. -/
theorem sees_bind (terminal : Terminal) (next : Bool → Parser α) (scope : Scope)
    (reading : Reading) :
    (sees terminal >>= next) scope reading =
      next (reading.rest.startsWith terminal) scope reading := by
  exact rfl

/-- What follows goes on behind the tokens that are taken. -/
theorem advance_bind (rest tokens : TokenStream) (next : Unit → Parser α) (scope : Scope)
    (reading : Reading) :
    (advance rest tokens >>= next) scope reading =
      next () scope (reading.advanced rest tokens) := by
  exact rfl

section Visible

variable (hvisible : reading.rest.Visible)
include hvisible

/-- A name is a word in front. -/
theorem name_eq_ok_iff {ident : Ident} :
    name scope reading = .ok (ident, done) ↔
      ∃ rest, reading.rest = .ident ident :: rest ∧ ident.isName = true ∧
        done = reading.advanced rest [.ident ident] := by
  unfold name
  rw [remaining_bind]
  constructor
  · intro hrun
    cases hword : reading.rest.word? with
    | none =>
      simp only [hword] at hrun
      exact absurd hrun (fails_expected _).ne_ok
    | some read =>
      obtain ⟨found, rest⟩ := read
      by_cases hname : found.isName = true
      · simp only [hword, hname, if_true, advance_bind, pure_eq_ok_iff] at hrun
        obtain ⟨rfl, rfl⟩ := hrun
        exact ⟨rest, hvisible.of_word? hword, hname, rfl⟩
      · simp only [hword, hname] at hrun
        exact absurd hrun (fails_failHere _).ne_ok
  · rintro ⟨rest, hrest, hname, rfl⟩
    have hword : reading.rest.word? = some (ident, rest) := by
      rw [hrest]
      rfl
    simp only [hword, hname, if_true]
    rfl

/-- A sign of one character stands in front, wherever it is joined. -/
theorem sign_eq_ok_iff {text : String} {c : Char} (htext : text.toList = [c]) (hquote : c ≠ '\x27')
    {span : Span} :
    sign text scope reading = .ok (span, done) ↔
      ∃ spacing rest, reading.rest = .punct c spacing span :: rest ∧
        done = reading.advanced rest [.punct c .alone span] := by
  unfold sign
  rw [remaining_bind, htext]
  constructor
  · intro hrun
    cases hsign : reading.rest.sign? [c] with
    | none =>
      simp only [hsign] at hrun
      cases hpunct : reading.rest.punct? with
      | none =>
        simp only [hpunct] at hrun
        exact absurd hrun (Fails.of_next fun _ => fails_fail _ _).ne_ok
      | some found =>
        simp only [hpunct] at hrun
        exact absurd hrun (fails_fail _ _).ne_ok
    | some read =>
      obtain ⟨spans, rest⟩ := read
      obtain ⟨spacing, found, hpunct, rfl⟩ := TokenStream.punct?_of_sign? hsign
      simp only [hsign, advance_bind, List.head?_cons, List.getLast?_singleton,
        pure_eq_ok_iff] at hrun
      obtain ⟨rfl, rfl⟩ := hrun
      exact ⟨spacing, rest, (hvisible.of_punct? hpunct).1, rfl⟩
  · rintro ⟨spacing, rest, hrest, rfl⟩
    have hsign : reading.rest.sign? [c] = some ([span], rest) := by
      simp [hrest, TokenStream.sign?, TokenStream.punct?, TokenStream.next?,
        TokenTree.exposedAll, TokenTree.exposed, hquote]
    simp only [hsign]
    rfl

end Visible

/-- The literal that comes next is read. -/
theorem literal_of_lit? {lit : Lit} {rest : TokenStream}
    (h : reading.rest.lit? = some (lit, rest)) :
    literal scope reading = .ok (lit, reading.advanced rest lit.tokens) := by
  unfold literal
  simp only [remaining_bind, h]
  rfl

/-- All tokens of a scope are a name if there is one word, and it is not reserved. -/
theorem name_run_eq_ok_iff {tokens : TokenStream} (hvisible : tokens.Visible) {ident : Ident} :
    name.run scope tokens = .ok ident ↔ tokens = [.ident ident] ∧ ident.isName = true := by
  have hstart : (⟨tokens, [], none⟩ : Reading).rest.Visible := hvisible
  rw [run_eq_ok_iff]
  constructor
  · rintro ⟨done, hread, _, hstray⟩
    obtain ⟨rest, rfl, hname, rfl⟩ := (name_eq_ok_iff hstart).mp hread
    obtain rfl : rest = [] := eq_nil_of_strayAmong (hvisible.tail rfl) hstray
    exact ⟨rfl, hname⟩
  · rintro ⟨rfl, hname⟩
    exact ⟨_, (name_eq_ok_iff hstart).mpr ⟨[], rfl, hname, rfl⟩, rfl, rfl⟩

end Parser

/-- Without invisible groups the next literal is the first token. -/
theorem TokenStream.Visible.of_lit? {tokens rest : TokenStream} (h : tokens.Visible) {lit : Lit}
    (hlit : tokens.lit? = some (lit, rest)) :
    tokens = .literal lit.text lit.span :: rest ∨
      tokens = .ident ⟨lit.text, lit.span⟩ :: rest ∧ (lit.text = "true" ∨ lit.text = "false") := by
  unfold lit? at hlit
  split at hlit
  · rename_i hnext
    obtain ⟨rfl, rfl⟩ : _ = lit ∧ _ = rest := by simpa using hlit
    exact .inl (h.of_next? hnext)
  · rename_i hnext
    split at hlit
    · rename_i htext
      obtain ⟨rfl, rfl⟩ : _ = lit ∧ _ = rest := by simpa using hlit
      exact .inr ⟨h.of_next? hnext, by simpa using htext⟩
    · simp at hlit
  · simp at hlit

namespace WrapperOptions

open ValuedEnum.Parser

/-- The word that a tree in front of the flags stands for. -/
inductive Names : TokenTree → Ident → Prop
  | word {ident : Ident} (h : ident.isName = true) : Names (.ident ident) ident
  /-- A string literal without a suffix, in which there is exactly one word. -/
  | quoted {text : String} (span : Span) {content : List Char} {word : Ident}
      (htext : LitKind.ofText text.toList = .string content [])
      (hcontent : TokenStream.ofChars content = .ok [.ident word]) (hword : word.isName = true) :
      Names (.literal text span) ⟨word.text, span⟩

/-- The truth value that a tree stands for: its word, or a literal token that is spelled like it,
which is none that a text holds. -/
inductive Tells : TokenTree → Bool → Prop
  | word (value : Bool) (span : Span) : Tells (.ident ⟨toString value, span⟩) value
  | literal (value : Bool) (span : Span) : Tells (.literal (toString value) span) value

variable {scope : Scope} {reading done : Reading}

/-- A name is the same word wherever its tokens are moved. -/
theorem name_run_withSpanAll_eq_ok_iff {tokens : TokenStream} (hvisible : tokens.Visible)
    {span : Span} {ident : Ident} :
    Parser.name.run scope (TokenTree.withSpanAll span tokens) = .ok ident ↔
      ∃ word, tokens = [.ident word] ∧ word.isName = true ∧ ident = ⟨word.text, span⟩ := by
  have hmoved : TokenStream.Visible (TokenTree.withSpanAll span tokens) :=
    TokenTree.visibleAll_withSpanAll.mpr hvisible
  rw [name_run_eq_ok_iff hmoved, TokenTree.withSpanAll_eq_map, List.map_eq_singleton_iff]
  constructor
  · rintro ⟨⟨tree, rfl, htree⟩, hname⟩
    cases tree <;> simp only [TokenTree.withSpan, TokenTree.ident.injEq, reduceCtorEq] at htree
    subst htree
    exact ⟨_, rfl, hname, rfl⟩
  · rintro ⟨word, rfl, hname, rfl⟩
    exact ⟨⟨_, rfl, by rw [TokenTree.withSpan]⟩, hname⟩

/-- The text of a literal names a wrapper if it is one word, and nothing stands behind it. -/
theorem nameOf_eq_ok_iff {lit : Lit} {content suffix : List Char} {ident : Ident} :
    nameOf lit content suffix = .ok ident ↔ suffix = [] ∧
      ∃ word, TokenStream.ofChars content = .ok [.ident word] ∧ word.isName = true ∧
        ident = ⟨word.text, lit.span⟩ := by
  unfold nameOf
  cases htokens : TokenStream.ofChars content with
  | error problem => simp
  | ok tokens =>
    have hname (ident : Ident) :
        Parser.name.run ⟨lit.span, .invisible⟩ (TokenTree.withSpanAll lit.span tokens) = .ok ident ↔
          ∃ word, tokens = [.ident word] ∧ word.isName = true ∧ ident = ⟨word.text, lit.span⟩ :=
      name_run_withSpanAll_eq_ok_iff (TokenStream.visible_ofChars htokens)
    constructor
    · intro h
      dsimp only at h
      split at h
      · simp at h
      · rename_i found hfound
        split at h
        · rename_i hsuffix
          obtain rfl : found = ident := by simpa using h
          obtain ⟨word, rfl, hword, rfl⟩ := (hname found).mp hfound
          exact ⟨by simpa using hsuffix, word, rfl, hword, rfl⟩
        · simp at h
    · rintro ⟨rfl, word, htokens, hword, rfl⟩
      have hfound := (hname _).mpr ⟨word, by simpa using htokens, hword, rfl⟩
      simp [hfound]

/-- A string in front is a literal token. -/
theorem exists_string_of_startsWith (hvisible : reading.rest.Visible)
    (h : reading.rest.startsWith .string = true) :
    ∃ lit content suffix rest, reading.rest = .literal lit.text lit.span :: rest ∧
      lit.kind = .string content suffix ∧ reading.rest.lit? = some (lit, rest) := by
  cases hlit : reading.rest.lit? with
  | none => simp [TokenStream.startsWith, Terminal.starts, hlit] at h
  | some read =>
    obtain ⟨lit, rest⟩ := read
    cases hkind : lit.kind with
    | string content suffix =>
      rcases hvisible.of_lit? hlit with hfront | ⟨_, htext⟩
      · exact ⟨lit, content, suffix, rest, hfront, hkind, rfl⟩
      · have hbool : ∀ content suffix, lit.kind ≠ .string content suffix := by
          unfold Lit.kind
          rcases htext with htext | htext <;> rw [htext] <;> simp [LitKind.ofText]
        exact absurd hkind (hbool _ _)
    | _ => simp [TokenStream.startsWith, Terminal.starts, hlit, hkind] at h

/-- What is found out about a name takes no tokens. -/
theorem liftExcept_eq_ok_iff {named : Except Problem Ident} {ident : Ident} :
    nameParser.liftExcept named scope reading = .ok (ident, done) ↔
      named = .ok ident ∧ reading = done := by
  unfold nameParser.liftExcept
  cases named with
  | error problem => simp [(fails_throw problem).ne_ok]
  | ok found => simp [pure_eq_ok_iff]

/-- A literal names what its text does. -/
theorem names_literal_iff {lit : Lit} {content suffix : List Char}
    (hkind : lit.kind = .string content suffix) {ident : Ident} :
    Names (.literal lit.text lit.span) ident ↔ nameOf lit content suffix = .ok ident := by
  rw [nameOf_eq_ok_iff]
  constructor
  · intro h
    cases h with
    | quoted _ htext hcontent hword =>
      have hsame := hkind.symm.trans htext
      obtain ⟨rfl, rfl⟩ : content = _ ∧ suffix = [] := LitKind.string.inj hsame
      exact ⟨rfl, _, hcontent, hword, rfl⟩
  · rintro ⟨rfl, word, hcontent, hword, rfl⟩
    exact .quoted lit.span hkind hcontent hword

/-- The name of a wrapper is read from the first tree, if it stands for one. -/
theorem nameParser_eq_ok_iff (hvisible : reading.rest.Visible) {ident : Ident} :
    nameParser scope reading = .ok (ident, done) ↔
      ∃ tree rest, reading.rest = tree :: rest ∧ Names tree ident ∧
        done = reading.advanced rest [tree] := by
  unfold nameParser
  rw [sees_bind]
  cases hstring : reading.rest.startsWith .string with
  | false =>
    rw [if_neg (by simp), name_eq_ok_iff hvisible]
    constructor
    · rintro ⟨rest, hrest, hname, rfl⟩
      exact ⟨_, rest, hrest, .word hname, rfl⟩
    · rintro ⟨tree, rest, hrest, hnames, rfl⟩
      cases hnames with
      | word hname => exact ⟨rest, hrest, hname, rfl⟩
      | @quoted text span content word htext =>
        have hlit : reading.rest.lit? = some (⟨text, span⟩, rest) := by
          rw [hrest]
          rfl
        simp [TokenStream.startsWith, Terminal.starts, hlit, Lit.kind, htext] at hstring
  | true =>
    obtain ⟨lit, content, suffix, rest, hrest, hkind, hlit⟩ :=
      exists_string_of_startsWith hvisible hstring
    have htokens : lit.tokens = [.literal lit.text lit.span] := by
      simp [Lit.tokens, Lit.token, hkind]
    rw [if_pos rfl, bind_apply, literal_of_lit? hlit]
    simp only [hkind, liftExcept_eq_ok_iff, htokens, ← names_literal_iff hkind]
    constructor
    · rintro ⟨hnames, rfl⟩
      exact ⟨_, rest, hrest, hnames, rfl⟩
    · rintro ⟨tree, behind, hbehind, hnames, rfl⟩
      obtain ⟨rfl, rfl⟩ : _ = tree ∧ rest = behind := by simpa [hrest] using hbehind
      exact ⟨hnames, rfl⟩

/-- No tree tells two truth values. -/
theorem Tells.unique {tree : TokenTree} {value other : Bool} (h : Tells tree value)
    (hother : Tells tree other) : value = other := by
  have hinjective : ∀ first second : Bool, toString first = toString second → first = second := by
    decide
  cases h with
  | word value span =>
    generalize hword : TokenTree.ident ⟨toString value, span⟩ = tree at hother
    cases hother with
    | word other span => exact hinjective _ _ (congrArg Ident.text (TokenTree.ident.inj hword))
    | literal => cases hword
  | literal value span =>
    generalize hliteral : TokenTree.literal (toString value) span = tree at hother
    cases hother with
    | word => cases hliteral
    | literal other span => exact hinjective _ _ (TokenTree.literal.inj hliteral).1

/-- What stands for a truth value is no invisible group. -/
theorem Tells.visible {tree : TokenTree} {value : Bool} (h : Tells tree value) : tree.Visible := by
  cases h <;> simp

/-- A tree that tells a truth value is read as its word. -/
theorem Tells.lit?_eq {tree : TokenTree} {value : Bool} (h : Tells tree value)
    (rest : TokenStream) :
    TokenStream.lit? (tree :: rest) = some (⟨toString value, tree.span⟩, rest) := by
  cases h with
  | word => cases value <;> rfl
  | literal => rfl

/-- A truth value is one tree in front. -/
theorem boolParser_eq_ok_iff (hvisible : reading.rest.Visible) {value : Bool} :
    boolParser scope reading = .ok (value, done) ↔
      ∃ tree rest, reading.rest = tree :: rest ∧ Tells tree value ∧
        done = reading.advanced rest [.ident ⟨toString value, tree.span⟩] := by
  unfold boolParser
  rw [remaining_bind]
  constructor
  · intro hrun
    cases hlit : reading.rest.lit? with
    | none =>
      simp only [hlit] at hrun
      exact absurd hrun (fails_expected _).ne_ok
    | some read =>
      obtain ⟨⟨text, span⟩, rest⟩ := read
      simp only [hlit] at hrun
      cases hkind : Lit.kind ⟨text, span⟩ with
      | bool found =>
        simp only [hkind, advance_bind, pure_eq_ok_iff] at hrun
        obtain ⟨rfl, rfl⟩ := hrun
        obtain rfl : text = toString found :=
          String.toList_inj.mp (LitKind.ofText_eq_bool_iff.mp hkind)
        simp only [Lit.tokens, Lit.token, hkind]
        rcases hvisible.of_lit? hlit with hfront | ⟨hfront, _⟩
        · exact ⟨_, rest, hfront, .literal found span, rfl⟩
        · exact ⟨_, rest, hfront, .word found span, rfl⟩
      | _ =>
        simp only [hkind] at hrun
        exact absurd hrun (fails_expected _).ne_ok
  · rintro ⟨tree, rest, hrest, htells, rfl⟩
    have hlit : reading.rest.lit? = some (⟨toString value, tree.span⟩, rest) :=
      hrest ▸ htells.lit?_eq rest
    have hkind : Lit.kind ⟨toString value, tree.span⟩ = .bool value :=
      LitKind.ofText_eq_bool_iff.mpr rfl
    simp only [hlit, hkind, advance_bind, Lit.tokens, Lit.token, pure_eq_ok_iff]
    simp

end WrapperOptions

end ValuedEnum
