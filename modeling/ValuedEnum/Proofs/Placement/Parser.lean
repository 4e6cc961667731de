import ValuedEnum.Proofs.Placement.Tokens
import ValuedEnum.Proofs.Spelling.Parser

/-!
# What parsers account for

What a parser has found and what is still announced behind it make up what was announced in front of
it. `Parser.Accounts` says so of a parser. A parser that takes no heading finds nothing; a heading
and the name behind it are taken one by one.
-/

namespace ValuedEnum

open TokenTree

namespace Parser

variable {α β : Type}

/-- The sites that were found, and what stands in front of the tokens that are left. -/
structure Account where
  front : Front
  found : List Site

namespace Account

/-- The sites that were found, and those that the tokens that are left announce. -/
def total (account : Account) (modules : List String) (tokens : TokenStream) : List Site :=
  account.found ++ announcedAll modules account.front tokens

/-- The account behind one more tree. -/
def behind (account : Account) (modules : List String) (tree : TokenTree) : Account :=
  ⟨account.front.behind tree, account.found ++ announced modules account.front tree⟩

/-- The sites of the next tree may be counted on either side. -/
theorem total_cons (account : Account) (modules : List String) (tree : TokenTree)
    (rest : TokenStream) :
    account.total modules (tree :: rest) = (account.behind modules tree).total modules rest := by
  simp [total, behind, announcedAll]

end Account

/-- From tokens of a text a reading goes on to such tokens. If nothing is left over in a group, no
site is lost or added. -/
structure Accounted (modules : List String) (start stop : Account) (reading done : Reading) :
    Prop where
  kept : Kept reading done
  visible : done.rest.Visible
  total : done.stray = none →
    start.total modules reading.rest = stop.total modules done.rest

/-- Where it succeeds, a parser accounts for the sites that the tokens it takes announce. -/
def AccountsFrom (scope : Scope) (reading : Reading) (modules : List String) (start : Account)
    (parser : Parser α) (stop : α → Account) : Prop :=
  ∀ ⦃result : α⦄ ⦃done : Reading⦄, parser scope reading = .ok (result, done) →
    Accounted modules start (stop result) reading done

/-- A parser that accounts for the sites in the tokens of any text. -/
def Accounts (modules : List String) (start : Account) (parser : Parser α) (stop : α → Account) :
    Prop :=
  ∀ ⦃scope : Scope⦄ ⦃reading : Reading⦄, reading.rest.Spelled → reading.rest.Visible →
    AccountsFrom scope reading modules start parser stop

variable {modules : List String} {start mid last : Account} {found : List Site}

/-- Two parts of a reading account for the sites of both. -/
theorem Accounted.trans {first second third : Reading}
    (h : Accounted modules start mid first second)
    (hrest : Accounted modules mid last second third) :
    Accounted modules start last first third := by
  refine ⟨h.kept.trans hrest.kept, hrest.visible, fun hstray => ?_⟩
  exact (h.total (hrest.kept.stray hstray)).trans (hrest.total hstray)

/-- Where no heading is taken, no site is found or lost. -/
theorem Passed.accounted {reading done : Reading} (h : Passed reading done)
    (hspelled : reading.rest.Spelled) (hvisible : reading.rest.Visible) :
    Accounted modules ⟨.plain, found⟩ ⟨.plain, found⟩ reading done := by
  obtain ⟨hrest, hannounced⟩ := h.passes.announcedAll_eq hvisible modules
  refine ⟨h.kept hspelled, hrest, fun _ => ?_⟩
  simp only [Account.total, hannounced]

/-- One tree is taken. -/
theorem Accounted.of_tree {reading done : Reading} {tree : TokenTree}
    (hspelled : reading.rest.Spelled) (hvisible : reading.rest.Visible)
    (hrest : reading.rest = tree :: done.rest) (hstray : done.stray = reading.stray) :
    Accounted modules start (start.behind modules tree) reading done := by
  refine ⟨⟨?_, fun h => hstray ▸ h⟩, hvisible.tail hrest, fun _ => ?_⟩
  · exact (spelledAll_cons.mp (hrest ▸ hspelled)).2
  · rw [hrest, Account.total_cons]

/-! ### Rules -/

section Rules

variable {scope : Scope} {reading : Reading}

/-- A parser that never succeeds accounts for anything. -/
theorem Fails.accountsFrom {parser : Parser α} (h : parser.Fails) (stop : α → Account) :
    AccountsFrom scope reading modules start parser stop := by
  intro result done hrun
  have hnone := h scope reading
  simp [hrun, Except.toOption] at hnone

/-- A parser with two branches accounts for what both branches account for. -/
theorem accountsFrom_ite {condition : Prop} [Decidable condition] {first second : Parser α}
    {stop : α → Account}
    (hfirst : condition → AccountsFrom scope reading modules start first stop)
    (hsecond : AccountsFrom scope reading modules start second stop) :
    AccountsFrom scope reading modules start (if condition then first else second) stop := by
  split
  · exact hfirst ‹_›
  · exact hsecond

/-- The token that a parser goes on behind is accounted for. -/
theorem accountsFrom_advance (hspelled : reading.rest.Spelled) (hvisible : reading.rest.Visible)
    {tree : TokenTree} {rest : TokenStream} (hrest : reading.rest = tree :: rest)
    (printed : TokenStream) {next : Unit → Parser α} {stop : α → Account}
    (hnext : ∀ result, Accounts modules (start.behind modules tree) (next result) stop) :
    AccountsFrom scope reading modules start (advance rest printed >>= next) stop := by
  intro result done hrun
  have htree : Accounted modules start (start.behind modules tree) reading
      ⟨rest, printed.reverse ++ reading.printed, reading.stray⟩ :=
    .of_tree hspelled hvisible hrest rfl
  exact htree.trans (hnext () htree.kept.spelled htree.visible hrun)

end Rules

/-- To return something finds no site. -/
theorem accounts_pure {result : α} {stop : α → Account} (h : stop result = start) :
    Accounts modules start (pure result) stop := by
  intro scope reading hspelled hvisible other done hrun
  have hpure : (pure result : Parser α) scope reading = .ok (result, reading) := rfl
  obtain ⟨rfl, rfl⟩ : result = other ∧ reading = done := by simpa [hpure] using hrun
  exact ⟨.refl hspelled, hvisible, fun _ => by rw [h]⟩

/-- The second of two parsers goes on with the account of the first one. -/
theorem Accounts.bind {parser : Parser α} {next : α → Parser β} {between : α → Account}
    {stop : β → Account} (hparser : Accounts modules start parser between)
    (hnext : ∀ result, Accounts modules (between result) (next result) stop) :
    Accounts modules start (parser >>= next) stop := by
  intro scope reading hspelled hvisible result done hrun
  rw [bind_apply] at hrun
  split at hrun
  · simp at hrun
  · rename_i first middle hfirst
    have hmiddle := hparser hspelled hvisible hfirst
    exact hmiddle.trans (hnext first hmiddle.kept.spelled hmiddle.visible hrun)

/-- A parser that takes no heading takes nothing that is announced. -/
theorem Quiet.accounts (parser : Parser α) [h : parser.Quiet] :
    Accounts modules ⟨.plain, found⟩ parser fun _ => ⟨.plain, found⟩ :=
  fun _ _ hspelled hvisible _ _ hrun => (h.passes trivial hrun).accounted hspelled hvisible

/-- A quiet parser in front changes no account. -/
theorem Quiet.accounts_bind (parser : Parser α) [parser.Quiet] {next : α → Parser β}
    {stop : β → Account} (hnext : ∀ result, Accounts modules ⟨.plain, found⟩ (next result) stop) :
    Accounts modules ⟨.plain, found⟩ (parser >>= next) stop :=
  (Quiet.accounts parser).bind hnext

/-- A parser that never succeeds accounts for the sites of any text. -/
theorem Fails.accounts {parser : Parser α} (h : parser.Fails) (stop : α → Account) :
    Accounts modules start parser stop :=
  fun _ _ _ _ => h.accountsFrom stop

/-- A parser with two branches accounts for what both branches do, wherever it starts. -/
theorem accounts_ite {condition : Prop} [Decidable condition] {first second : Parser α}
    {stop : α → Account} (hfirst : Accounts modules start first stop)
    (hsecond : Accounts modules start second stop) :
    Accounts modules start (if condition then first else second) stop := by
  split
  · exact hfirst
  · exact hsecond

/-- Looking at tokens takes none, whatever stands in front of them. -/
theorem accounts_looks {parser : Parser α}
    (h : ∀ scope reading, ∃ result, parser scope reading = .ok (result, reading)) :
    Accounts modules start parser fun _ => start := by
  intro scope reading hspelled hvisible result done hrun
  obtain ⟨seen, hseen⟩ := h scope reading
  obtain ⟨rfl, rfl⟩ : seen = result ∧ reading = done := by simpa [hseen] using hrun
  exact ⟨.refl hspelled, hvisible, fun _ => rfl⟩

/-- A parser that looks at the tokens first may rely on what it saw. -/
theorem accounts_remaining {next : TokenStream → Parser α} {stop : α → Account}
    (h : ∀ scope reading, reading.rest.Spelled → reading.rest.Visible →
      AccountsFrom scope reading modules start (next reading.rest) stop) :
    Accounts modules start (remaining >>= next) stop :=
  fun scope reading hspelled hvisible _ _ hrun => h scope reading hspelled hvisible hrun

/-- What comes next may have been looked at before. -/
theorem accounts_ahead? {parser : Parser α} {next : Option α → Parser β} {stop : β → Account}
    (h : ∀ scope reading, reading.rest.Spelled → reading.rest.Visible → ∀ seen,
      (∀ result ∈ seen, ∃ done, parser scope reading = .ok (result, done)) →
      AccountsFrom scope reading modules start (next seen) stop) :
    Accounts modules start (ahead? parser >>= next) stop := by
  intro scope reading hspelled hvisible result done hrun
  rw [bind_apply] at hrun
  unfold ahead? at hrun
  cases hlook : parser scope reading with
  | error problem =>
    rw [hlook] at hrun
    exact h scope reading hspelled hvisible none (by simp) hrun
  | ok read =>
    obtain ⟨seen, last⟩ := read
    rw [hlook] at hrun
    exact h scope reading hspelled hvisible (some seen) (by simp [hlook]) hrun

/-! ### Taking headings and names -/

/-- A word that is taken stands in front of the tokens that are left. -/
theorem accounts_anyWord :
    Accounts modules start anyWord fun ident => start.behind modules (.ident ident) := by
  refine accounts_remaining fun scope reading hspelled hvisible => ?_
  split
  · rename_i ident rest hword
    have hrest := hvisible.of_word? hword
    exact accountsFrom_advance hspelled hvisible hrest _ fun _ => accounts_pure rfl
  · exact (fails_expected _).accountsFrom _

/-- A name that is taken stands in front of the tokens that are left. -/
theorem accounts_name :
    Accounts modules start name fun ident => start.behind modules (.ident ident) := by
  refine accounts_remaining fun scope reading hspelled hvisible => ?_
  split
  · rename_i ident rest hword
    have hrest := hvisible.of_word? hword
    refine accountsFrom_ite (fun _ => ?_) ((fails_failHere _).accountsFrom _)
    exact accountsFrom_advance hspelled hvisible hrest _ fun _ => accounts_pure rfl
  · exact (fails_expected _).accountsFrom _

/-- What stands behind a word is known from the word. -/
theorem accounts_take_word {text : String} {front : Front}
    (hfront : ∀ span, Front.plain.behind (.ident ⟨text, span⟩) = front) :
    Accounts modules ⟨.plain, found⟩ (take (.word text)) fun _ => ⟨front, found⟩ := by
  have hword : Accounts modules ⟨.plain, found⟩ (word text) fun _ => ⟨front, found⟩ := by
    refine accounts_remaining fun scope reading hspelled hvisible => ?_
    split
    · rename_i ident rest hword
      have hrest := hvisible.of_word? hword
      refine accountsFrom_ite (fun htext => ?_) ((fails_expected _).accountsFrom _)
      refine accountsFrom_advance hspelled hvisible hrest _ fun _ => accounts_pure ?_
      subst htext
      simp [Account.behind, announced, hfront ident.span]
    · exact (fails_expected _).accountsFrom _
  exact hword.bind fun _ => accounts_pure rfl

/-- No enumeration or module stands in front of what is behind a semicolon. -/
theorem accounts_accept_semicolon :
    Accounts modules start (accept (.sign ";")) fun seen =>
      if seen then ⟨.plain, start.found⟩ else start := by
  have hsign : Accounts modules start (sign ";") fun _ => ⟨.plain, start.found⟩ := by
    refine accounts_remaining fun scope reading hspelled hvisible => ?_
    split
    · rename_i spans rest hsign
      obtain ⟨spacing, span, hpunct, _⟩ : ∃ spacing span,
          reading.rest.punct? = some (';', spacing, span, rest) ∧ spans = [span] :=
        TokenStream.punct?_of_sign? hsign
      have hrest := (hvisible.of_punct? hpunct).1
      refine accountsFrom_advance hspelled hvisible hrest _ fun _ => ?_
      have hbehind : start.behind modules (.punct ';' spacing span) = ⟨.plain, start.found⟩ := by
        simp [Account.behind, Front.behind, announced]
      rw [hbehind]
      split
      · exact accounts_pure rfl
      · exact Quiet.accounts location
    · split
      · exact (fails_fail _ _).accountsFrom _
      · exact (Fails.of_next fun _ => fails_fail _ _).accountsFrom _
  refine (accounts_looks fun _ _ => ⟨_, rfl⟩).bind fun seen => ?_
  refine accounts_ite ?_ (accounts_pure rfl)
  have htake : Accounts modules start (take (.sign ";")) fun _ => ⟨.plain, start.found⟩ :=
    hsign.bind fun _ => accounts_pure rfl
  exact htake.bind fun _ => accounts_pure rfl

/-! ### Bodies and files -/

variable {tokens : TokenStream}

/-- Nothing that stands in a text is left over unseen. -/
theorem eq_nil_of_strayAmong {scope : Delimiter} (h : tokens.Visible)
    (hstray : strayAmong scope tokens = none) : tokens = [] := by
  cases tokens with
  | nil => rfl
  | cons tree rest =>
    have hseen : ∃ problem, strayIn scope tree = some problem := by
      cases tree with
      | group delimiter inner span =>
        have hdelimiter := (visible_group.mp (visibleAll_cons.mp h).1).1
        cases delimiter with
        | invisible => contradiction
        | _ => exact ⟨_, rfl⟩
      | _ => exact ⟨_, rfl⟩
    obtain ⟨problem, hproblem⟩ := hseen
    simp [strayAmong, hproblem] at hstray

/-- All that the body of a module announces is accounted for by what reads it. -/
theorem accounts_body {content : Parser α} {name : String} {inside : α → List Site}
    (hcontent : Accounts (modules ++ [name]) ⟨.plain, []⟩ content
      fun read => ⟨.plain, inside read⟩) :
    Accounts modules ⟨.moduleNamed name, found⟩ (delimited .brace content)
      fun read => ⟨.plain, found ++ inside read.1⟩ := by
  intro scope reading hspelled hvisible result done hrun
  unfold delimited at hrun
  split at hrun
  · exact (fails_expected _).accounts (fun read => ⟨.plain, found ++ inside read.1⟩)
      hspelled hvisible hrun
  · rename_i inner span rest hgroup
    have hrest := hvisible.of_group? hgroup
    obtain ⟨hinner, hbehind⟩ := hspelled.of_group? hgroup
    have hshown : inner.Visible := (visible_group.mp (visibleAll_cons.mp (hrest ▸ hvisible)).1).2
    split at hrun
    · simp at hrun
    · rename_i read last hread
      obtain ⟨hkept, hlast, htotal⟩ := hcontent hinner hshown hread
      obtain ⟨rfl, hdone⟩ : _ = result ∧ _ = done := by simpa using hrun
      -- A body that is read to its end leaves nothing over, so all that its tokens announce was
      -- found.
      have hended (hstray : done.stray = none) : last.stray = none ∧ last.rest = [] := by
        rw [← hdone] at hstray
        dsimp only at hstray
        split at hstray
        · simp at hstray
        · rename_i hnone
          exact ⟨hnone, eq_nil_of_strayAmong hlast hstray⟩
      obtain rfl : rest = done.rest := by rw [← hdone]
      refine ⟨⟨hbehind, fun hstray => hkept.stray (hended hstray).1⟩, hvisible.tail hrest, ?_⟩
      intro hstray
      obtain ⟨hnone, hnil⟩ := hended hstray
      have hbody := htotal hnone
      simp only [Account.total, hnil, announcedAll, List.nil_append, List.append_nil] at hbody
      simp [Account.total, hrest, announcedAll, announced, Front.behind, hbody]

/-- Parsers one after the other find sites one after the other. -/
theorem accounts_collect {step : Parser (Option α)} {sites : α → List Site}
    (hstep : ∀ found, Accounts modules ⟨.plain, found⟩ step
      fun read => ⟨.plain, found ++ read.toList.flatMap sites⟩) (bound : Nat) :
    Accounts modules ⟨.plain, found⟩ (collect bound step)
      fun all => ⟨.plain, found ++ all.flatMap sites⟩ := by
  induction bound generalizing found with
  | zero => exact accounts_pure (by simp)
  | succ bound ih =>
    refine (hstep found).bind fun read => ?_
    split
    · refine ih.bind fun rest => accounts_pure ?_
      simp
    · exact accounts_pure (by simp)

/-- A repetition up to the end accounts for the sites of all elements. -/
theorem accounts_untilEnd {parser : Parser α} {sites : α → List Site}
    (hparser : ∀ found, Accounts modules ⟨.plain, found⟩ parser
      fun read => ⟨.plain, found ++ sites read⟩) (bound : Nat) :
    Accounts modules ⟨.plain, found⟩ (untilEnd bound parser)
      fun all => ⟨.plain, found ++ all.flatMap sites⟩ := by
  refine accounts_collect (fun found => Quiet.accounts_bind _ fun tokens => ?_) bound
  refine accounts_ite ((hparser found).bind fun read => accounts_pure ?_) (accounts_pure ?_)
  · simp
  · simp

/-- All sites of a text are accounted for where all of it is read. -/
theorem Accounts.of_run {parser : Parser α} {stop : α → Account}
    (h : Accounts modules ⟨.plain, []⟩ parser stop) {scope : Scope} (hspelled : tokens.Spelled)
    (hvisible : tokens.Visible) {result : α} (hrun : parser.run scope tokens = .ok result) :
    announcedAll modules .plain tokens = (stop result).found := by
  obtain ⟨done, hread, hnone, hstray⟩ := run_eq_ok_iff.mp hrun
  have hstart : (⟨tokens, [], none⟩ : Reading).rest.Spelled := hspelled
  obtain ⟨-, hdone, htotal⟩ := h hstart hvisible hread
  have hnil := eq_nil_of_strayAmong hdone hstray
  simpa [Account.total, hnil, announcedAll] using htotal hnone

end Parser

end ValuedEnum
