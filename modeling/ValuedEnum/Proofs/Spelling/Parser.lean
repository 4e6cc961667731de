import ValuedEnum.Grammar.Generics
import ValuedEnum.Proofs.Scope
import ValuedEnum.Proofs.Spelling.Headless

/-!
# What parsers take

A parser that starts at spelled tokens leaves spelled tokens behind, whatever it reads: tokens are
only ever taken away in front of it, or from a group. Tokens that were left over in a group before
are not forgotten. `Parser.Ensures` adds a property of what is returned. Most parsers return nothing
of interest, and most neither take nor print a heading: for these the classes `Parser.Keeps` and
`Parser.Quiet` find a proof from those of their parts. `Parser.Tells` is for a property that what is
returned has wherever a parser starts.
-/

namespace ValuedEnum

namespace Parser

variable {α β : Type}

/-- From spelled tokens a reading goes on to spelled tokens. -/
structure Kept (reading done : Reading) : Prop where
  spelled : done.rest.Spelled
  stray : done.stray = none → reading.stray = none

/-- A reading goes on, and no heading is taken or printed. -/
structure Passed (reading done : Reading) : Prop where
  passes : reading.rest.Passes done.rest
  printed : ∃ tokens : TokenStream, tokens.Headless ∧
    done.printed = tokens.reverse ++ reading.printed
  stray : reading.rest.Spelled → done.stray = none → reading.stray = none

/-- Started at spelled tokens, a parser that succeeds leaves spelled tokens, and its result has a
property. -/
def Ensures (parser : Parser α) (post : α → Prop) : Prop :=
  ∀ ⦃scope : Scope⦄ ⦃reading : Reading⦄ ⦃result : α⦄ ⦃done : Reading⦄, reading.rest.Spelled →
    parser scope reading = .ok (result, done) → Kept reading done ∧ post result

/-- A parser that leaves spelled tokens. -/
class Keeps (parser : Parser α) : Prop where
  keeps : parser.Ensures fun _ => True

/-- Where it starts under a condition, a parser takes no heading and prints none. -/
def PassesFrom (start : TokenStream → Prop) (parser : Parser α) : Prop :=
  ∀ ⦃scope : Scope⦄ ⦃reading : Reading⦄ ⦃result : α⦄ ⦃done : Reading⦄, start reading.rest →
    parser scope reading = .ok (result, done) → Passed reading done

/-- A parser that takes no heading and prints none. -/
class Quiet (parser : Parser α) : Prop where
  passes : parser.PassesFrom fun _ => True

/-- Whatever the tokens are, what a parser returns if it succeeds has a property. -/
def Tells (parser : Parser α) (post : α → Prop) : Prop :=
  ∀ ⦃scope : Scope⦄ ⦃reading : Reading⦄ ⦃result : α⦄ ⦃done : Reading⦄,
    parser scope reading = .ok (result, done) → post result

/-- A reading that stands at spelled tokens may stay where it is. -/
theorem Kept.refl {reading : Reading} (h : reading.rest.Spelled) : Kept reading reading :=
  ⟨h, id⟩

/-- Two parts of a reading follow each other. -/
theorem Kept.trans {first second third : Reading} (h : Kept first second)
    (hrest : Kept second third) : Kept first third :=
  ⟨hrest.spelled, fun hstray => h.stray (hrest.stray hstray)⟩

/-- A reading that stays where it is takes no heading. -/
theorem Passed.refl (reading : Reading) : Passed reading reading :=
  ⟨.done _, ⟨[], .nil, rfl⟩, fun _ => id⟩

/-- If no heading is taken in two parts of a reading, none is taken in both. -/
theorem Passed.trans {first second third : Reading} (h : Passed first second)
    (hrest : Passed second third) : Passed first third := by
  obtain ⟨tokens, htokens, hfirst⟩ := h.printed
  obtain ⟨more, hmore, hsecond⟩ := hrest.printed
  refine ⟨h.passes.trans hrest.passes, ⟨tokens ++ more, htokens.append hmore, ?_⟩, ?_⟩
  · rw [hsecond, hfirst, List.reverse_append, List.append_assoc]
  · intro hspelled hstray
    exact h.stray hspelled (hrest.stray (h.passes.spelled hspelled) hstray)

/-- What is left behind was there before, so it is spelled if all tokens were. -/
theorem Passed.kept {reading done : Reading} (h : Passed reading done)
    (hreading : reading.rest.Spelled) : Kept reading done :=
  ⟨h.passes.spelled hreading, h.stray hreading⟩

/-! ### Rules -/

/-- What is ensured of a result may be weakened. -/
theorem Ensures.mono {parser : Parser α} {post wider : α → Prop} (h : parser.Ensures post)
    (hpost : ∀ result, post result → wider result) : parser.Ensures wider := by
  intro scope reading result done hreading hrun
  obtain ⟨hdone, hresult⟩ := h hreading hrun
  exact ⟨hdone, hpost result hresult⟩

/-- Whatever a parser ensures, it leaves spelled tokens. -/
theorem Ensures.keeps {parser : Parser α} {post : α → Prop} (h : parser.Ensures post) :
    parser.Keeps :=
  ⟨h.mono fun _ _ => trivial⟩

/-- A parser that passes under some condition passes under a narrower one. -/
theorem PassesFrom.mono {start narrower : TokenStream → Prop} {parser : Parser α}
    (h : parser.PassesFrom start) (hstart : ∀ tokens, narrower tokens → start tokens) :
    parser.PassesFrom narrower :=
  fun _ _ _ _ hreading hrun => h (hstart _ hreading) hrun

/-- A quiet parser passes under any condition. -/
theorem Quiet.passesFrom (parser : Parser α) [h : parser.Quiet] (start : TokenStream → Prop) :
    parser.PassesFrom start :=
  h.passes.mono fun _ _ => trivial

/-- A parser that takes no heading leaves spelled tokens. -/
instance (priority := low) (parser : Parser α) [h : parser.Quiet] : Keeps parser :=
  ⟨fun _ _ _ _ hreading hrun => ⟨(h.passes trivial hrun).kept hreading, trivial⟩⟩

/-- To return something takes no tokens. -/
theorem ensures_pure {result : α} {post : α → Prop} (h : post result) :
    Ensures (pure result) post := by
  intro scope reading other done hreading hrun
  have hpure : (pure result : Parser α) scope reading = .ok (result, reading) := rfl
  obtain ⟨rfl, rfl⟩ : result = other ∧ reading = done := by simpa [hpure] using hrun
  exact ⟨.refl hreading, h⟩

/-- The second of two parsers may rely on what the first one ensures. -/
theorem Ensures.bind {parser : Parser α} {next : α → Parser β} {mid : α → Prop} {post : β → Prop}
    (hparser : parser.Ensures mid) (hnext : ∀ result, mid result → (next result).Ensures post) :
    Ensures (parser >>= next) post := by
  intro scope reading result done hreading hrun
  rw [bind_apply] at hrun
  split at hrun
  · simp at hrun
  · rename_i first between hfirst
    obtain ⟨hbetween, hmid⟩ := hparser hreading hfirst
    obtain ⟨hdone, hresult⟩ := hnext first hmid hbetween.spelled hrun
    exact ⟨hbetween.trans hdone, hresult⟩

/-- What a parser returns may be of no interest for what follows. -/
theorem Keeps.bind (parser : Parser α) [hparser : parser.Keeps] {next : α → Parser β}
    {post : β → Prop} (hnext : ∀ result, (next result).Ensures post) :
    Ensures (parser >>= next) post :=
  hparser.keeps.bind fun result _ => hnext result

/-- Only the first of two parsers needs a condition, if the second one is quiet. -/
theorem PassesFrom.bind {start : TokenStream → Prop} {parser : Parser α} {next : α → Parser β}
    (hparser : parser.PassesFrom start) (hnext : ∀ result, (next result).Quiet) :
    PassesFrom start (parser >>= next) := by
  intro scope reading result done hreading hrun
  rw [bind_apply] at hrun
  split at hrun
  · simp at hrun
  · rename_i first between hfirst
    exact (hparser hreading hfirst).trans ((hnext first).passes trivial hrun)

/-- Two quiet parsers in a row are quiet. -/
theorem Quiet.bind (parser : Parser α) [hparser : parser.Quiet] {next : α → Parser β}
    (hnext : ∀ result, (next result).Quiet) : Quiet (parser >>= next) :=
  ⟨hparser.passes.bind hnext⟩

/-- What is returned has the properties that it has. -/
theorem tells_pure {result : α} {post : α → Prop} (h : post result) :
    Tells (pure result) post := by
  intro scope reading other done hrun
  have hpure : (pure result : Parser α) scope reading = .ok (result, reading) := rfl
  obtain ⟨rfl, rfl⟩ : result = other ∧ reading = done := by simpa [hpure] using hrun
  exact h

/-- The second of two parsers may rely on what the first one tells. -/
theorem Tells.bind {parser : Parser α} {next : α → Parser β} {mid : α → Prop} {post : β → Prop}
    (hparser : parser.Tells mid) (hnext : ∀ result, mid result → (next result).Tells post) :
    Tells (parser >>= next) post := by
  intro scope reading result done hrun
  rw [bind_apply] at hrun
  split at hrun
  · simp at hrun
  · rename_i first between hfirst
    exact hnext first (hparser hfirst) hrun

/-- What the second of two parsers returns is all that counts. -/
theorem Tells.of_next {parser : Parser α} {next : α → Parser β} {post : β → Prop}
    (hnext : ∀ result, (next result).Tells post) : Tells (parser >>= next) post :=
  have hany : parser.Tells fun _ => True := fun _ _ _ _ _ => trivial
  hany.bind fun result _ => hnext result

/-- What follows may depend on what a parser tells. -/
theorem Quiet.bind_tells {parser : Parser α} [hparser : parser.Quiet] {next : α → Parser β}
    {mid : α → Prop} (h : parser.Tells mid) (hnext : ∀ result, mid result → (next result).Quiet) :
    Quiet (parser >>= next) := by
  refine ⟨fun scope reading result done _ hrun => ?_⟩
  rw [bind_apply] at hrun
  split at hrun
  · simp at hrun
  · rename_i first between hfirst
    exact (hparser.passes trivial hfirst).trans ((hnext first (h hfirst)).passes trivial hrun)

/-- A parser with two branches tells what both branches tell. -/
theorem tells_ite {condition : Prop} [Decidable condition] {first second : Parser α}
    {post : α → Prop} (hfirst : first.Tells post) (hsecond : second.Tells post) :
    Tells (if condition then first else second) post := by
  split
  · exact hfirst
  · exact hsecond

/-- A parser that never succeeds tells anything. -/
theorem Fails.tells {parser : Parser α} (h : parser.Fails) (post : α → Prop) :
    parser.Tells post := by
  intro scope reading result done hrun
  have hnone := h scope reading
  simp [hrun, Except.toOption] at hnone

/-- A parser that never succeeds ensures anything. -/
theorem Fails.ensures {parser : Parser α} (h : parser.Fails) (post : α → Prop) :
    parser.Ensures post := by
  intro scope reading result done _ hrun
  have hnone := h scope reading
  simp [hrun, Except.toOption] at hnone

/-- A parser that never succeeds takes nothing. -/
theorem Fails.quiet {parser : Parser α} (h : parser.Fails) : parser.Quiet := by
  refine ⟨fun scope reading result done _ hrun => ?_⟩
  have hnone := h scope reading
  simp [hrun, Except.toOption] at hnone

/-- A parser with two branches ensures what both branches ensure. -/
theorem ensures_ite {condition : Prop} [Decidable condition] {first second : Parser α}
    {post : α → Prop} (hfirst : first.Ensures post) (hsecond : second.Ensures post) :
    Ensures (if condition then first else second) post := by
  split
  · exact hfirst
  · exact hsecond

/-- A parser with two branches passes if both branches do, the first one where it is taken. -/
theorem passesFrom_ite {condition : Prop} [Decidable condition] {start : TokenStream → Prop}
    {first second : Parser α} (hfirst : condition → first.PassesFrom start)
    (hsecond : second.PassesFrom start) :
    PassesFrom start (if condition then first else second) := by
  split
  · exact hfirst ‹_›
  · exact hsecond

instance (result : α) : Quiet (pure result) := by
  refine ⟨fun scope reading other done _ hrun => ?_⟩
  have hpure : (pure result : Parser α) scope reading = .ok (result, reading) := rfl
  obtain ⟨rfl, rfl⟩ : result = other ∧ reading = done := by simpa [hpure] using hrun
  exact .refl reading

instance (parser : Parser α) (next : α → Parser β) [parser.Keeps]
    [h : ∀ result, (next result).Keeps] : Keeps (parser >>= next) :=
  ⟨Keeps.bind parser fun result => (h result).keeps⟩

instance (parser : Parser α) (next : α → Parser β) [parser.Quiet]
    [h : ∀ result, (next result).Quiet] : Quiet (parser >>= next) :=
  Quiet.bind parser h

instance (condition : Prop) [Decidable condition] (first second : Parser α) [hfirst : first.Keeps]
    [hsecond : second.Keeps] : Keeps (if condition then first else second) :=
  ⟨ensures_ite hfirst.keeps hsecond.keeps⟩

instance (condition : Prop) [Decidable condition] (first second : Parser α) [hfirst : first.Quiet]
    [hsecond : second.Quiet] : Quiet (if condition then first else second) :=
  ⟨passesFrom_ite (fun _ => hfirst.passes) hsecond.passes⟩

/-! ### Looking at tokens -/

/-- A parser that only looks at tokens leaves what it found. -/
theorem Quiet.of_looks {parser : Parser α}
    (h : ∀ scope reading, ∃ result, parser scope reading = .ok (result, reading)) :
    parser.Quiet := by
  refine ⟨fun scope reading result done _ hrun => ?_⟩
  obtain ⟨seen, hseen⟩ := h scope reading
  obtain ⟨rfl, rfl⟩ : seen = result ∧ reading = done := by simpa [hseen] using hrun
  exact .refl reading

/-- The tokens that are left are spelled. -/
theorem ensures_remaining : Ensures remaining TokenStream.Spelled := by
  intro scope reading result done hreading hrun
  have hlook : remaining scope reading = .ok (reading.rest, reading) := rfl
  obtain ⟨rfl, rfl⟩ : reading.rest = result ∧ reading = done := by simpa [hlook] using hrun
  exact ⟨.refl hreading, hreading⟩

/-- What follows may depend on the tokens that are left. -/
theorem passesFrom_remaining {start : TokenStream → Prop} {next : TokenStream → Parser α}
    (h : ∀ tokens, start tokens → (next tokens).PassesFrom (· = tokens)) :
    PassesFrom start (remaining >>= next) :=
  fun _ reading _ _ hreading hrun => h reading.rest hreading rfl hrun

/-- A parser that looks at the tokens first may rely on what it saw. -/
theorem quiet_remaining {next : TokenStream → Parser α}
    (h : ∀ tokens, (next tokens).PassesFrom (· = tokens)) : Quiet (remaining >>= next) :=
  ⟨passesFrom_remaining fun tokens _ => h tokens⟩

instance : Quiet remaining := .of_looks fun _ _ => ⟨_, rfl⟩

instance : Quiet atEnd := .of_looks fun _ _ => ⟨_, rfl⟩

instance (terminal : Terminal) : Quiet (sees terminal) := .of_looks fun _ _ => ⟨_, rfl⟩

instance (terminals : List Terminal) : Quiet (seesAny terminals) := .of_looks fun _ _ => ⟨_, rfl⟩

instance (terminal : Terminal) : Quiet (seesSecond terminal) := .of_looks fun _ _ => ⟨_, rfl⟩

instance (terminal : Terminal) : Quiet (seesThird terminal) := .of_looks fun _ _ => ⟨_, rfl⟩

instance : Quiet location := by
  refine .of_looks fun scope reading => ?_
  obtain ⟨rest, printed, stray⟩ := reading
  cases rest with
  | nil => exact ⟨_, rfl⟩
  | cons tree rest => exact ⟨_, rfl⟩

instance (parser : Parser α) : Quiet (ahead? parser) := by
  refine .of_looks fun scope reading => ?_
  unfold ahead?
  cases parser scope reading with
  | error problem => exact ⟨_, rfl⟩
  | ok done => exact ⟨_, rfl⟩

/-! ### Faults -/

/-- A fault that names what was expected ends a parser. -/
theorem fails_expectedAmong (tried : List Terminal) : Fails (expectedAmong tried : Parser α) := by
  refine .of_next fun tokens => ?_
  split
  · exact fails_expected _
  · split
    · exact .of_next fun _ => fails_fail _ _
    · exact fails_fail _ _

instance (cause : Cause) (span : Span) : Quiet (fail cause span : Parser α) :=
  (fails_fail cause span).quiet

instance (what : Expectation) : Quiet (expected what : Parser α) := (fails_expected what).quiet

instance (text : String) : Quiet (remark text : Parser α) := (fails_failHere _).quiet

instance (tried : List Terminal) : Quiet (expectedAmong tried : Parser α) :=
  (fails_expectedAmong tried).quiet

/-! ### Taking tokens -/

/-- A parser may go on at spelled tokens. -/
theorem ensures_advance {rest : TokenStream} (hrest : rest.Spelled) (tokens : TokenStream) :
    Ensures (advance rest tokens) fun _ => True := by
  intro scope reading result done _ hrun
  have hstep : advance rest tokens scope reading =
      .ok ((), { reading with rest := rest, printed := tokens.reverse ++ reading.printed }) := rfl
  obtain rfl : _ = done := by simpa [hstep] using hrun
  exact ⟨⟨hrest, id⟩, trivial⟩

/-- A parser may go on behind tokens that are no headings, and print such tokens. -/
theorem passesFrom_advance (rest : TokenStream) {tokens : TokenStream} (h : tokens.Headless) :
    (advance rest tokens).PassesFrom fun start => start.Passes rest := by
  intro scope reading result done hreading hrun
  have hstep : advance rest tokens scope reading =
      .ok ((), { reading with rest := rest, printed := tokens.reverse ++ reading.printed }) := rfl
  obtain rfl : _ = done := by simpa [hstep] using hrun
  exact ⟨hreading, ⟨tokens, h, rfl⟩, fun _ => id⟩

/-- A reader that goes on behind the tokens that it has looked at. -/
theorem passesFrom_advance_bind {start rest : TokenStream} (h : start.Passes rest)
    {tokens : TokenStream} (htokens : tokens.Headless) {next : Unit → Parser α}
    (hnext : ∀ result, (next result).Quiet) :
    PassesFrom (· = start) (advance rest tokens >>= next) := by
  refine ((passesFrom_advance rest htokens).mono ?_).bind hnext
  rintro _ rfl
  exact h

/-- Tokens without headings may be printed. -/
theorem quiet_print {tokens : TokenStream} (h : tokens.Headless) : Quiet (print tokens) := by
  refine ⟨fun scope reading result done _ hrun => ?_⟩
  have hstep : print tokens scope reading =
      .ok ((), { reading with printed := tokens.reverse ++ reading.printed }) := rfl
  obtain rfl : _ = done := by simpa [hstep] using hrun
  exact ⟨.done _, ⟨tokens, h, rfl⟩, fun _ => id⟩

instance (text : String) (span : Span) : Quiet (print [.literal text span]) :=
  quiet_print (.literal .nil)

instance (span : Span) : Quiet (print [.punct '.' .alone span]) :=
  quiet_print (.punct (by decide) .nil)

/-- A name that is read from spelled tokens is an identifier. -/
theorem ensures_name : Ensures name Ident.IsIdentifier := by
  refine ensures_remaining.bind fun tokens htokens => ?_
  split
  · rename_i ident rest hword
    obtain ⟨hident, hrest⟩ := htokens.of_word? hword
    refine ensures_ite ?_ ((fails_failHere _).ensures _)
    exact (ensures_advance hrest _).bind fun _ _ => ensures_pure hident
  · exact (fails_expected _).ensures _

/-- A word that is read from spelled tokens is an identifier. -/
theorem ensures_anyWord : Ensures anyWord Ident.IsIdentifier := by
  refine ensures_remaining.bind fun tokens htokens => ?_
  split
  · rename_i ident rest hword
    obtain ⟨hident, hrest⟩ := htokens.of_word? hword
    exact (ensures_advance hrest _).bind fun _ _ => ensures_pure hident
  · exact (fails_expected _).ensures _

instance : Keeps anyWord := ensures_anyWord.keeps

instance (text : String) : Keeps (word text) := by
  refine ⟨ensures_remaining.bind fun tokens htokens => ?_⟩
  split
  · rename_i ident rest hword
    refine ensures_ite ?_ ((fails_expected _).ensures _)
    exact (ensures_advance (htokens.of_word? hword).2 _).bind fun _ _ => ensures_pure trivial
  · exact (fails_expected _).ensures _

instance : Quiet name := by
  refine quiet_remaining fun tokens => ?_
  split
  · rename_i ident rest hword
    refine passesFrom_ite (fun hname => ?_) ((fails_failHere _).quiet.passesFrom _ _)
    have hheading := Ident.not_isHeading_of_isName hname
    exact passesFrom_advance_bind (.word hword hheading (.done rest)) (.word hheading .nil)
      fun _ => inferInstance
  · exact Quiet.passesFrom _ _

instance (text : String) : Quiet (sign text) := by
  refine quiet_remaining fun tokens => ?_
  split
  · rename_i spans rest hsign
    refine passesFrom_advance_bind (TokenStream.passes_of_sign? hsign)
      (TokenStream.headless_spelled hsign)
      fun _ => ?_
    split
    · infer_instance
    · infer_instance
  · split
    · exact Quiet.passesFrom _ _
    · exact Quiet.passesFrom _ _

instance : Quiet lifetime := by
  refine quiet_remaining fun tokens => ?_
  split
  · rename_i quote ident rest hlifetime
    exact passesFrom_advance_bind (.lifetime hlifetime (.done rest)) (.lifetime .nil)
      fun _ => inferInstance
  · exact Quiet.passesFrom _ _

instance : Quiet literal := by
  refine quiet_remaining fun tokens => ?_
  split
  · rename_i hlit
    exact passesFrom_advance_bind (TokenStream.passes_of_lit? hlit) (Lit.headless_tokens _)
      fun _ => inferInstance
  · split
    · rename_i hnegative
      exact passesFrom_advance_bind (TokenStream.passes_of_negative? hnegative)
        (.punct (by decide) (.literal .nil)) fun _ => inferInstance
    · exact Quiet.passesFrom _ _

instance (terminal : Terminal) : Quiet (literalOf terminal) := by
  unfold literalOf
  infer_instance

/-- What stands in a group is as spelled as the group. -/
theorem ensures_verbatimGroup : Ensures verbatimGroup fun group => group.2.1.Spelled := by
  refine ensures_remaining.bind fun tokens htokens => ?_
  split
  · obtain ⟨hgroup, hrest⟩ := TokenTree.spelledAll_cons.mp htokens
    refine ensures_ite ((fails_expected _).ensures _) ?_
    exact (ensures_advance hrest _).bind fun _ _ => ensures_pure (TokenTree.spelled_group.mp hgroup)
  · exact (fails_expected _).ensures _

instance : Quiet verbatimGroup := by
  refine quiet_remaining fun tokens => ?_
  split
  · rename_i delimiter inner span rest
    by_cases hinvisible : delimiter = .invisible
    · rw [if_pos hinvisible]
      exact Quiet.passesFrom _ _
    · rw [if_neg hinvisible]
      have hgroup : TokenStream.group? delimiter (.group delimiter inner span :: rest) =
          some (inner, span, rest) := by
        cases delimiter <;> simp_all [TokenStream.group?, TokenStream.next?, TokenTree.exposedAll,
          TokenTree.exposed]
      exact passesFrom_advance_bind (.group hgroup (.done rest)) (.group hinvisible .nil)
        fun _ => inferInstance
  · exact Quiet.passesFrom _ _

instance (terminal : Terminal) : Keeps (take terminal) := by
  unfold take
  cases terminal <;> infer_instance

instance (terminal : Terminal) : Keeps (accept terminal) := by
  unfold accept
  infer_instance

/-! ### Words that are no headings -/

/-- A word that is no heading. -/
class PlainWord (text : String) : Prop where
  plain : text ≠ "enum" ∧ text ≠ "mod"

/-- A terminal such that no word that it stands for is a heading. -/
class PlainStart (terminal : Terminal) : Prop where
  plain : ∀ ⦃tokens rest : TokenStream⦄ ⦃ident : Ident⦄, tokens.startsWith terminal = true →
    tokens.word? = some (ident, rest) → ident.isHeading = false

/-- Tokens of some kinds none of which is a heading. -/
class PlainStarts (terminals : List Terminal) : Prop where
  plain : ∀ terminal ∈ terminals, PlainStart terminal

/-- A parser that takes no heading where one of some terminals comes next. -/
class QuietBehind (terminals : List Terminal) (parser : Parser α) : Prop where
  passes : parser.PassesFrom fun tokens => terminals.any tokens.startsWith = true

/-- A plain word is no heading, wherever it stands. -/
theorem PlainWord.not_isHeading {text : String} [h : PlainWord text] {ident : Ident}
    (hident : ident.text = text) : ident.isHeading = false := by
  simp [Ident.isHeading, hident, h.plain.1, h.plain.2]

instance (text : String) [PlainWord text] : PlainStart (.word text) := by
  refine ⟨fun tokens rest ident hstarts hword => ?_⟩
  have hident : ident.text = text := by
    simpa [TokenStream.startsWith, Terminal.starts, hword] using hstarts
  exact PlainWord.not_isHeading hident

instance : PlainWord "_" := ⟨by decide⟩

instance : PlainStart .underscore := by
  have hword : PlainStart (.word "_") := inferInstance
  exact ⟨hword.plain⟩

instance : PlainStart .name := by
  refine ⟨fun tokens rest ident hstarts hword => ?_⟩
  have hname : ident.isName = true := by
    simpa [TokenStream.startsWith, Terminal.starts, hword] using hstarts
  exact Ident.not_isHeading_of_isName hname

instance : PlainStarts [] := ⟨by simp⟩

instance (terminal : Terminal) (rest : List Terminal) [hterminal : PlainStart terminal]
    [hrest : PlainStarts rest] : PlainStarts (terminal :: rest) :=
  ⟨List.forall_mem_cons.mpr ⟨hterminal, hrest.plain⟩⟩

instance (terminals : List Terminal) (parser : Parser α) [parser.Quiet] :
    QuietBehind terminals parser :=
  ⟨Quiet.passesFrom parser _⟩

/-- Any word may be taken where one comes next that is no heading. -/
theorem passesFrom_anyWord {terminals : List Terminal} [h : PlainStarts terminals] :
    anyWord.PassesFrom fun tokens => terminals.any tokens.startsWith = true := by
  refine passesFrom_remaining fun tokens hstart => ?_
  obtain ⟨terminal, hterminal, hstarts⟩ := List.any_eq_true.mp hstart
  split
  · rename_i ident rest hword
    have hheading := (h.plain terminal hterminal).plain hstarts hword
    exact passesFrom_advance_bind (.word hword hheading (.done rest)) (.word hheading .nil)
      fun _ => inferInstance
  · exact Quiet.passesFrom _ _

instance (terminals : List Terminal) [PlainStarts terminals] : QuietBehind terminals anyWord :=
  ⟨passesFrom_anyWord⟩

instance (terminals : List Terminal) (parser : Parser α) (next : α → Parser β)
    [hparser : QuietBehind terminals parser] [hnext : ∀ result, (next result).Quiet] :
    QuietBehind terminals (parser >>= next) :=
  ⟨hparser.passes.bind hnext⟩

instance (terminals : List Terminal) [PlainStarts terminals] :
    QuietBehind terminals (take .anyWord) := by
  unfold take
  infer_instance

/-- A branch is only entered where one of some terminals comes next. -/
theorem quiet_seesAny {terminals : List Terminal} {next : Bool → Parser α}
    (hseen : QuietBehind terminals (next true)) (hother : (next false).Quiet) :
    Quiet (seesAny terminals >>= next) := by
  refine ⟨fun scope reading result done _ hrun => ?_⟩
  change next (terminals.any reading.rest.startsWith) scope reading = .ok (result, done) at hrun
  cases hstart : terminals.any reading.rest.startsWith with
  | true => exact hseen.passes hstart (hstart ▸ hrun)
  | false => exact hother.passes trivial (hstart ▸ hrun)

/-- A parser that asks for a token may rely on the answer. -/
theorem quiet_sees {terminal : Terminal} {next : Bool → Parser α}
    (hseen : QuietBehind [terminal] (next true)) (hother : (next false).Quiet) :
    Quiet (sees terminal >>= next) := by
  refine ⟨fun scope reading result done _ hrun => ?_⟩
  change next (reading.rest.startsWith terminal) scope reading = .ok (result, done) at hrun
  cases hstart : reading.rest.startsWith terminal with
  | true => exact hseen.passes (by simpa using hstart) (hstart ▸ hrun)
  | false => exact hother.passes trivial (hstart ▸ hrun)

instance (terminals : List Terminal) (first second : Parser α)
    [hfirst : QuietBehind terminals first] [hsecond : second.Quiet] :
    Quiet (seesAny terminals >>= fun seen => if seen = true then first else second) :=
  quiet_seesAny hfirst hsecond

instance (terminal : Terminal) (first second : Parser α) [hfirst : QuietBehind [terminal] first]
    [hsecond : second.Quiet] :
    Quiet (sees terminal >>= fun seen => if seen = true then first else second) :=
  quiet_sees hfirst hsecond

/-- A parser that takes no heading at some tokens. -/
class QuietAt (tokens : TokenStream) (parser : Parser α) : Prop where
  passes : parser.PassesFrom (· = tokens)

instance (priority := low) (tokens : TokenStream) (parser : Parser α) [parser.Quiet] :
    QuietAt tokens parser :=
  ⟨Quiet.passesFrom parser _⟩

instance (next : TokenStream → Parser α) [h : ∀ tokens, QuietAt tokens (next tokens)] :
    Quiet (remaining >>= next) :=
  quiet_remaining fun tokens => (h tokens).passes

instance (tokens : TokenStream) (condition : Prop) [Decidable condition]
    (first second : Parser α) [hfirst : QuietAt tokens first] [hsecond : QuietAt tokens second] :
    QuietAt tokens (if condition then first else second) :=
  ⟨passesFrom_ite (fun _ => hfirst.passes) hsecond.passes⟩

/-- A branch is only entered where one of some terminals comes next. -/
theorem quietAt_ite {tokens : TokenStream} {terminals : List Terminal} {condition : Prop}
    [Decidable condition] (hcondition : condition → terminals.any tokens.startsWith = true)
    {first second : Parser α} (hfirst : QuietBehind terminals first)
    (hsecond : QuietAt tokens second) : QuietAt tokens (if condition then first else second) := by
  refine ⟨passesFrom_ite (fun hc => hfirst.passes.mono ?_) hsecond.passes⟩
  rintro _ rfl
  exact hcondition hc

instance (tokens : TokenStream) (terminal : Terminal) (first second : Parser α)
    [hfirst : QuietBehind [terminal] first] [hsecond : QuietAt tokens second] :
    QuietAt tokens (if tokens.startsWith terminal = true then first else second) :=
  quietAt_ite (by simp) hfirst hsecond

instance (tokens : TokenStream) (terminal : Terminal) (more : Bool) (first second : Parser α)
    [hfirst : QuietBehind [terminal] first] [hsecond : QuietAt tokens second] :
    QuietAt tokens (if (tokens.startsWith terminal && more) = true then first else second) :=
  quietAt_ite (by simp +contextual) hfirst hsecond

instance (tokens : TokenStream) (terminals : List Terminal) (first second : Parser α)
    [hfirst : QuietBehind terminals first] [hsecond : QuietAt tokens second] :
    QuietAt tokens (if Generics.stopsAt terminals tokens = true then first else second) :=
  quietAt_ite id hfirst hsecond

instance (text : String) [PlainWord text] : Quiet (word text) := by
  refine quiet_remaining fun tokens => ?_
  split
  · rename_i ident rest hword
    refine passesFrom_ite (fun htext => ?_) (Quiet.passesFrom _ _)
    have hheading := PlainWord.not_isHeading htext
    exact passesFrom_advance_bind (.word hword hheading (.done rest)) (.word hheading .nil)
      fun _ => inferInstance
  · exact Quiet.passesFrom _ _

instance (text : String) [PlainWord text] : Quiet (take (.word text)) := by
  unfold take
  infer_instance

instance (text : String) : Quiet (take (.sign text)) := by
  unfold take
  infer_instance

instance : Quiet (take .name) := by
  unfold take
  infer_instance

instance : Quiet (take .lifetime) := by
  unfold take
  infer_instance

instance : Quiet (take .string) := by
  unfold take
  infer_instance

instance : Quiet (take .integer) := by
  unfold take
  infer_instance

instance (terminal : Terminal) [Quiet (take terminal)] : Quiet (accept terminal) := by
  unfold accept
  infer_instance

instance (terminal : Terminal) [Quiet (take terminal)] : Quiet (skip terminal) := by
  unfold skip
  infer_instance

/-! ### Composition -/

/-- In a group a parser ensures what it ensures elsewhere. -/
theorem ensures_delimited {content : Parser α} {post : α → Prop} (hcontent : content.Ensures post)
    (delimiter : Delimiter) : Ensures (delimited delimiter content) fun read => post read.1 := by
  intro scope reading result done hreading hrun
  unfold delimited at hrun
  split at hrun
  · exact (fails_expected _).ensures (fun read => post read.1) hreading hrun
  · rename_i hgroup
    obtain ⟨hinner, hrest⟩ := hreading.of_group? hgroup
    split at hrun
    · simp at hrun
    · rename_i hread
      obtain ⟨rfl, rfl⟩ : _ = result ∧ _ = done := by simpa using hrun
      obtain ⟨hkept, hresult⟩ := hcontent hinner hread
      refine ⟨⟨hrest, fun hstray => hkept.stray ?_⟩, hresult⟩
      dsimp only at hstray
      split at hstray
      · simp at hstray
      · assumption

/-- Whatever is read in a group, the group is all that is taken. If the group is invisible, what is
read in it must hold no heading either. -/
theorem quiet_delimited {delimiter : Delimiter} {content : Parser α} (h : content.Keeps)
    (hprinted : ∀ ⦃scope : Scope⦄ ⦃reading : Reading⦄ ⦃result : α⦄ ⦃done : Reading⦄,
      reading.printed = [] → content scope reading = .ok (result, done) → ∀ span,
        TokenStream.Headless [.group delimiter done.printed.reverse span]) :
    Quiet (delimited delimiter content) := by
  refine ⟨fun scope reading result done _ hrun => ?_⟩
  have hkept (hreading : reading.rest.Spelled) : Kept reading done :=
    (ensures_delimited h.keeps delimiter hreading hrun).1
  unfold delimited at hrun
  split at hrun
  · exact (fails_expected _).quiet.passes trivial hrun
  · rename_i span rest hgroup
    split at hrun
    · simp at hrun
    · rename_i inner hread
      obtain ⟨rfl, rfl⟩ : _ = result ∧ _ = done := by simpa using hrun
      exact ⟨.group hgroup (.done _), ⟨_, hprinted rfl hread span, rfl⟩,
        fun hreading => (hkept hreading).stray⟩

instance (content : Parser α) [h : content.Keeps] : Quiet (delimited .parenthesis content) :=
  quiet_delimited h fun _ _ _ _ _ _ _ => .group (by decide) .nil

instance (content : Parser α) [h : content.Keeps] : Quiet (delimited .brace content) :=
  quiet_delimited h fun _ _ _ _ _ _ _ => .group (by decide) .nil

instance (content : Parser α) [h : content.Keeps] : Quiet (delimited .bracket content) :=
  quiet_delimited h fun _ _ _ _ _ _ _ => .group (by decide) .nil

/-- A parser that starts to print prints no headings if it takes none. -/
theorem PassesFrom.headless {start : TokenStream → Prop} {parser : Parser α}
    (h : parser.PassesFrom start) {scope : Scope} {reading done : Reading} {result : α}
    (hstart : start reading.rest) (hprinted : reading.printed = [])
    (hrun : parser scope reading = .ok (result, done)) :
    TokenStream.Headless done.printed.reverse := by
  obtain ⟨tokens, htokens, hdone⟩ := (h hstart hrun).printed
  simpa [hdone, hprinted] using htokens

instance (content : Parser α) [h : content.Quiet] : Quiet (delimited .invisible content) :=
  quiet_delimited inferInstance fun _ _ _ _ hprinted hrun _ =>
    .fragment (h.passes.headless trivial hprinted hrun) .nil

/-- To capture what a parser prints changes nothing that it takes. -/
theorem PassesFrom.captured {start : TokenStream → Prop} {parser : Parser α}
    (h : parser.PassesFrom start) : PassesFrom start (captured parser) := by
  intro scope reading result done hreading hrun
  unfold Parser.captured at hrun
  split at hrun
  · simp at hrun
  · rename_i hread
    obtain ⟨_, rfl⟩ : _ = result ∧ _ = done := by simpa using hrun
    have hstart : start (⟨reading.rest, [], reading.stray⟩ : Reading).rest := hreading
    obtain ⟨hpasses, ⟨tokens, htokens, hprinted⟩, hstray⟩ := h hstart hread
    exact ⟨hpasses, ⟨tokens, htokens, by simp [hprinted]⟩, hstray⟩

instance (parser : Parser α) [h : parser.Quiet] : Quiet (captured parser) := ⟨h.passes.captured⟩

instance (terminals : List Terminal) (parser : Parser α) [h : QuietBehind terminals parser] :
    QuietBehind terminals (captured parser) :=
  ⟨h.passes.captured⟩

instance (parser : Parser α) [h : parser.Quiet] : Quiet (silent parser) := by
  refine ⟨fun scope reading result done _ hrun => ?_⟩
  unfold silent at hrun
  split at hrun
  · simp at hrun
  · rename_i hread
    obtain ⟨_, rfl⟩ : _ = result ∧ _ = done := by simpa using hrun
    obtain ⟨hpasses, -, hstray⟩ := h.passes trivial hread
    exact ⟨hpasses, ⟨[], .nil, rfl⟩, hstray⟩

/-- A quiet parser prints no heading, so none is captured. -/
theorem tells_captured (parser : Parser α) [h : parser.Quiet] :
    (captured parser).Tells fun read => read.2.Headless := by
  intro scope reading result done hrun
  unfold captured at hrun
  split at hrun
  · simp at hrun
  · rename_i hread
    obtain ⟨rfl, -⟩ : _ = result ∧ _ = done := by simpa using hrun
    exact h.passes.headless trivial rfl hread

/-- To drop what a parser prints changes nothing that it returns. -/
theorem Tells.silent {parser : Parser α} {post : α → Prop} (h : parser.Tells post) :
    (silent parser).Tells post := by
  intro scope reading result done hrun
  unfold Parser.silent at hrun
  split at hrun
  · simp at hrun
  · rename_i hread
    obtain ⟨rfl, -⟩ : _ = result ∧ _ = done := by simpa using hrun
    exact h hread

/-- What a parser would print may be printed later, or not at all. -/
theorem Quiet.bind_captured (parser : Parser α) [parser.Quiet]
    {next : α × TokenStream → Parser β}
    (hnext : ∀ read tokens, (print tokens).Quiet → (next (read, tokens)).Quiet) :
    Quiet (silent (captured parser) >>= next) :=
  Quiet.bind_tells (tells_captured parser).silent fun (read, tokens) htokens =>
    hnext read tokens (quiet_print htokens)

instance (parser : Parser α) [h : parser.Quiet] : Quiet (attempt? parser) := by
  refine ⟨fun scope reading result done _ hrun => ?_⟩
  unfold attempt? at hrun
  split at hrun
  · obtain ⟨_, rfl⟩ : none = result ∧ reading = done := by simpa using hrun
    exact .refl reading
  · rename_i hread
    obtain ⟨_, rfl⟩ : _ = result ∧ _ = done := by simpa using hrun
    exact h.passes trivial hread

/-- All that a repeated step returns has the property that each one of its results has. -/
theorem ensures_collect {step : Parser (Option α)} {post : α → Prop}
    (hstep : step.Ensures fun found => ∀ item ∈ found, post item) (bound : Nat) :
    Ensures (collect bound step) fun all => ∀ item ∈ all, post item := by
  induction bound with
  | zero => exact ensures_pure (by simp)
  | succ bound ih =>
    refine hstep.bind fun found hfound => ?_
    split
    · refine ih.bind fun rest hrest => ensures_pure ?_
      exact List.forall_mem_cons.mpr ⟨hfound _ rfl, hrest⟩
    · exact ensures_pure (by simp)

instance (bound : Nat) (step : Parser (Option α)) [step.Quiet] : Quiet (collect bound step) := by
  induction bound with
  | zero => exact inferInstanceAs (Quiet (pure []))
  | succ bound ih =>
    refine Quiet.bind step fun found => ?_
    split
    · infer_instance
    · infer_instance

/-- A repetition ensures of every element what is ensured of one. -/
theorem ensures_whileSeen {parser : Parser α} {post : α → Prop} (hparser : parser.Ensures post)
    (bound : Nat) (condition : TokenStream → Bool) :
    Ensures (whileSeen bound condition parser) fun all => ∀ item ∈ all, post item := by
  refine ensures_collect (Keeps.bind remaining fun tokens => ensures_ite ?_ ?_) bound
  · exact hparser.bind fun item hitem => ensures_pure (by simpa using hitem)
  · exact ensures_pure (by simp)

/-- The same is true of a repetition up to the end. -/
theorem ensures_untilEnd {parser : Parser α} {post : α → Prop} (hparser : parser.Ensures post)
    (bound : Nat) : Ensures (untilEnd bound parser) fun all => ∀ item ∈ all, post item :=
  ensures_whileSeen hparser bound _

instance (bound : Nat) (condition : TokenStream → Bool) (parser : Parser α) [parser.Quiet] :
    Quiet (whileSeen bound condition parser) := by
  unfold whileSeen
  infer_instance

instance (bound : Nat) (parser : Parser α) [h : parser.Keeps] : Keeps (untilEnd bound parser) :=
  (ensures_untilEnd h.keeps bound).keeps

/-- The same is true of elements with separators between them. -/
theorem ensures_separated {item : Parser α} {post : α → Prop} (hitem : item.Ensures post)
    (bound : Nat) (separator : String) (stops : TokenStream → Bool) :
    Ensures (separated bound separator stops item) fun read => ∀ one ∈ read.1, post one := by
  induction bound with
  | zero =>
    unfold separated
    exact ensures_pure (by simp)
  | succ bound ih =>
    unfold separated
    refine Keeps.bind remaining fun tokens => ensures_ite (ensures_pure (by simp)) ?_
    refine hitem.bind fun first hfirst => Keeps.bind remaining fun tokens => ensures_ite ?_ ?_
    · exact ensures_pure (by simpa using hfirst)
    · refine Keeps.bind (sign separator) fun _ => ih.bind fun read hread => ensures_pure ?_
      exact List.forall_mem_cons.mpr ⟨hfirst, hread⟩

/-- What is told of one element holds of all that stand between separators. -/
theorem tells_separated {item : Parser α} {post : α → Prop} (hitem : item.Tells post)
    (bound : Nat) (separator : String) (stops : TokenStream → Bool) :
    Tells (separated bound separator stops item) fun read => ∀ one ∈ read.1, post one := by
  induction bound with
  | zero =>
    unfold separated
    exact tells_pure (by simp)
  | succ bound ih =>
    unfold separated
    refine .of_next fun tokens => tells_ite (tells_pure (by simp)) ?_
    refine hitem.bind fun first hfirst => .of_next fun tokens => tells_ite ?_ ?_
    · exact tells_pure (by simpa using hfirst)
    · refine .of_next fun _ => ih.bind fun read hread => tells_pure ?_
      exact List.forall_mem_cons.mpr ⟨hfirst, hread⟩

instance (bound : Nat) (separator : String) (stops : TokenStream → Bool) (item : Parser α)
    [item.Quiet] : Quiet (separated bound separator stops item) := by
  induction bound with
  | zero =>
    unfold separated
    infer_instance
  | succ bound ih =>
    unfold separated
    infer_instance

instance (bound : Nat) (item : Parser α) [h : item.Keeps] : Keeps (commaTerminated bound item) :=
  (ensures_separated h.keeps bound "," List.isEmpty).keeps

instance (bound : Nat) (item : Parser α) [item.Quiet] : Quiet (commaTerminated bound item) := by
  unfold commaTerminated
  infer_instance

instance (bound : Nat) (separator : String) (stops : TokenStream → Bool) (item : Parser α)
    [item.Quiet] : Quiet (joined bound separator stops item) := by
  induction bound with
  | zero =>
    unfold joined
    infer_instance
  | succ bound ih =>
    unfold joined
    infer_instance

/-- Parsers that all take no heading behind their terminals. -/
class QuietAll (rules : List (Terminal × Parser α)) : Prop where
  quiet : ∀ rule ∈ rules, QuietBehind [rule.1] rule.2

instance : QuietAll ([] : List (Terminal × Parser α)) := ⟨by simp⟩

instance (terminal : Terminal) (parser : Parser α) (rest : List (Terminal × Parser α))
    [hparser : QuietBehind [terminal] parser] [hrest : QuietAll rest] :
    QuietAll ((terminal, parser) :: rest) :=
  ⟨List.forall_mem_cons.mpr ⟨hparser, hrest.quiet⟩⟩

instance (rules : List (Terminal × Parser α)) [h : QuietAll rules] : Quiet (choose rules) := by
  refine quiet_remaining fun tokens => ?_
  split
  · rename_i rule hfind
    refine (h.quiet rule (List.mem_of_find?_eq_some hfind)).passes.mono ?_
    rintro _ rfl
    simpa using List.find?_some hfind
  · exact Quiet.passesFrom _ _

/-- All tokens of a scope are read from spelled tokens. -/
theorem Ensures.of_run {parser : Parser α} {post : α → Prop} (h : parser.Ensures post)
    {scope : Scope} {tokens : TokenStream} (htokens : tokens.Spelled) {result : α}
    (hrun : parser.run scope tokens = .ok result) : post result := by
  obtain ⟨done, hread, _⟩ := run_eq_ok_iff.mp hrun
  have hstart : (⟨tokens, [], none⟩ : Reading).rest.Spelled := htokens
  exact (h hstart hread).2

end Parser

end ValuedEnum
