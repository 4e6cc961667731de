import ValuedEnum.Proofs.Placement.Parser
import ValuedEnum.Proofs.Spelling.Source

/-!
# The enumerations of a text

Only the rules of enumerations and modules take headings, and the body of a module is read like a
file. This file proves that the enumerations of a text stand where its tokens announce them, and
that a search finds them there.
-/

namespace ValuedEnum

open TokenTree

/-! ### Items -/

namespace Item

/-- Where the enumerations of an item stand. -/
def sites (modules : List String) (item : Item) : List Site :=
  (item.placed modules).map Placed.site

/-- The sites of some items are found item by item. -/
theorem map_site_placedAll (modules : List String) (items : List Item) :
    (placedAll modules items).map Placed.site = items.flatMap (sites modules) := by
  induction items with
  | nil => simp [placedAll]
  | cons item rest ih => rw [placedAll, List.map_append, ih, List.flatMap_cons, sites]

/-- What is no enumeration and no module holds no sites. -/
@[simp] theorem sites_other (modules : List String) : Item.other.sites modules = [] := by
  simp [sites, placed]

/-- An enumeration has one site. -/
@[simp] theorem sites_enumeration (modules : List String) (item : EnumItem) :
    (Item.enumeration item).sites modules = [(modules, item.ident)] := by
  simp [sites, placed, Placed.site]

/-- The sites of a module are those of its items, one module further in. -/
@[simp] theorem sites_module (modules : List String) (name : Ident) (items : List Item) :
    (Item.module name items).sites modules = items.flatMap (sites (modules ++ [name.text])) := by
  rw [sites, placed, map_site_placedAll]

end Item

namespace ItemRule

open ValuedEnum.Parser

/-- Rules that account for the sites in the items that they read. -/
def AccountsItems (rules : Rules) : Prop :=
  ∀ modules found attributes, Accounts modules ⟨.plain, found⟩ (rules.item attributes)
    fun item => ⟨.plain, found ++ item.sites modules⟩

variable {rules : Rules} [hkeep : rules.Keep] {modules : List String} {found : List Site}

/-- What is passed over quietly announces nothing. -/
theorem accounts_passed (parser : Parser Unit) [parser.Quiet] :
    Accounts modules ⟨.plain, found⟩ (passed parser)
      fun item => ⟨.plain, found ++ item.sites modules⟩ := by
  exact Quiet.accounts_bind parser fun _ => accounts_pure (by simp)

/-- An enumeration accounts for one site. -/
theorem accounts_enumeration (attributes : List Attribute) :
    Accounts modules ⟨.plain, found⟩ (enumeration rules attributes)
      fun item => ⟨.plain, found ++ [(modules, item.ident)]⟩ := by
  have hfront (span : Span) : Front.plain.behind (.ident ⟨"enum", span⟩) = .enumeration := by
    simp [Front.behind]
  unfold enumeration
  refine Quiet.accounts_bind _ fun visibility => ?_
  refine (accounts_take_word hfront).bind fun _ => accounts_name.bind fun ident => ?_
  refine Quiet.accounts_bind _ fun generics => Quiet.accounts_bind _ fun constraints => ?_
  exact Quiet.accounts_bind _ fun body => accounts_pure rfl

variable (h : AccountsItems rules)
include h

/-- A file accounts for the sites of all its items. -/
theorem accounts_file : Accounts modules ⟨.plain, found⟩ (file rules)
    fun items => ⟨.plain, found ++ items.flatMap (Item.sites modules)⟩ := by
  have hitem (found : List Site) : Accounts modules ⟨.plain, found⟩
      (do rules.item (← Attribute.outerAll rules))
      fun item => ⟨.plain, found ++ item.sites modules⟩ :=
    Quiet.accounts_bind _ fun attributes => h modules found attributes
  unfold file
  exact Quiet.accounts_bind _ fun _ => accounts_untilEnd hitem rules.limit

/-- What a module holds is announced in the body of the module. -/
theorem accounts_moduleItem : Accounts modules ⟨.plain, found⟩ (moduleItem rules)
    fun item => ⟨.plain, found ++ item.sites modules⟩ := by
  have hfront (span : Span) : Front.plain.behind (.ident ⟨"mod", span⟩) = .module := by
    simp [Front.behind]
  unfold moduleItem
  refine Quiet.accounts_bind _ fun visibility => Quiet.accounts_bind _ fun _ => ?_
  refine (accounts_take_word hfront).bind fun _ => (accounts_looks fun _ _ => ⟨_, rfl⟩).bind ?_
  intro raw
  extract_lets body
  have hbody (ident : Ident) :
      Accounts modules (Account.behind ⟨.module, found⟩ modules (.ident ident)) (body ident)
        fun item => ⟨.plain, found ++ item.sites modules⟩ := by
    have hnamed : Account.behind ⟨.module, found⟩ modules (.ident ident) =
        ⟨.moduleNamed ident.text, found⟩ := by
      simp [Account.behind, Front.behind, announced]
    rw [hnamed]
    refine accounts_accept_semicolon.bind fun ended => ?_
    cases ended with
    | true => exact accounts_pure (by simp)
    | false =>
      refine (accounts_looks fun _ _ => ⟨_, rfl⟩).bind fun braced => accounts_ite ?_ ?_
      · exact (accounts_body (accounts_file h)).bind fun read => accounts_pure (by simp)
      · exact (fails_expectedAmong _).accounts _
  exact accounts_ite (accounts_anyWord.bind hbody) (accounts_name.bind hbody)

/-- Behind `unsafe` a module accounts for its sites, and nothing else for any. -/
theorem accounts_unsafeItem : Accounts modules ⟨.plain, found⟩ (unsafeItem rules)
    fun item => ⟨.plain, found ++ item.sites modules⟩ := by
  have hother : (⟨.plain, found ++ Item.other.sites modules⟩ : Account) = ⟨.plain, found⟩ := by
    simp
  unfold unsafeItem
  refine Quiet.accounts_bind _ fun parsed => ?_
  split
  · exact Quiet.accounts_bind _ fun _ => accounts_pure hother
  · refine accounts_ite (Quiet.accounts_bind _ fun _ => accounts_pure hother) ?_
    refine accounts_ite (Quiet.accounts_bind _ fun _ => accounts_pure hother) ?_
    refine accounts_ite (Quiet.accounts_bind _ fun _ => accounts_pure hother) ?_
    refine accounts_ite (accounts_moduleItem h) ?_
    exact (Fails.of_next fun _ => .of_next fun _ => fails_expectedAmong _).accounts _

omit hkeep h in
/-- The word in front of a declaration is taken whatever it is. An item is only read as a
declaration if the word is no heading. -/
theorem passed_of_declarationItem {scope : Scope} {reading done : Reading} {result : Unit}
    (hfirst : ∀ visibility between, Visibility.parser scope reading = .ok (visibility, between) →
      between.rest.startsWith (.word "macro") = true)
    (hrun : declarationItem scope reading = .ok (result, done)) : Passed reading done := by
  unfold declarationItem at hrun
  rw [bind_apply] at hrun
  split at hrun
  · simp at hrun
  · rename_i visibility between hvisibility
    have hstart : [Terminal.word "macro"].any between.rest.startsWith = true := by
      simpa using hfirst visibility between hvisibility
    have hfront : Passed reading between := Quiet.passes trivial hvisibility
    exact hfront.trans (QuietBehind.passes hstart hrun)

omit hkeep h in
/-- A macro behind a visibility is passed over without a site. -/
theorem accounts_declarationItem {scope : Scope} {reading : Reading}
    (hspelled : reading.rest.Spelled) (hvisible : reading.rest.Visible)
    (hfirst : ∀ visibility between, Visibility.parser scope reading = .ok (visibility, between) →
      between.rest.startsWith (.word "macro") = true) :
    AccountsFrom scope reading modules ⟨.plain, found⟩ (passed declarationItem)
      fun item => ⟨.plain, found ++ item.sites modules⟩ := by
  intro item done hrun
  rw [passed, bind_apply] at hrun
  split at hrun
  · simp at hrun
  · rename_i last hdeclaration
    have hother : (Except.ok (Item.other, last) : Except Problem _) = .ok (item, done) := hrun
    obtain ⟨rfl, rfl⟩ : Item.other = item ∧ last = done := by simpa using hother
    have hpassed : Passed reading last := passed_of_declarationItem hfirst hdeclaration
    simpa using hpassed.accounted hspelled hvisible

omit hkeep h in
/-- To see whether a function comes next, nothing is taken. -/
theorem startsFunction_looks (safe : Bool) (scope : Scope) (reading : Reading) :
    ∃ seen, startsFunction safe scope reading = .ok (seen, reading) := by
  unfold startsFunction
  rw [bind_apply]
  unfold ahead?
  cases (do functionFront safe; sees (.word "fn") : Parser Bool) scope reading with
  | error problem => exact ⟨false, rfl⟩
  | ok read => exact ⟨read.1, rfl⟩

omit hkeep h in
/-- An item is chosen by the tokens behind its visibility. -/
theorem rest_of_look {scope : Scope} {reading done : Reading}
    {visibility : Visibility} {isFunction : Bool} {tokens : TokenStream}
    (hlook : (do
      let visibility ← Visibility.parser
      return (visibility, ← startsFunction false, ← remaining) : Parser _) scope reading =
        .ok ((visibility, isFunction, tokens), done)) :
    ∃ between, Visibility.parser scope reading = .ok (visibility, between) ∧
      between.rest = tokens := by
  rw [bind_apply] at hlook
  split at hlook
  · simp at hlook
  · rename_i found between hvisibility
    obtain ⟨seen, hseen⟩ := startsFunction_looks false scope between
    rw [bind_apply, hseen] at hlook
    have hread : Except.ok ((found, seen, between.rest), between) =
        (Except.ok ((visibility, isFunction, tokens), done) : Except Problem _) := hlook
    obtain ⟨⟨rfl, _, hrest⟩, _⟩ :
        (found = visibility ∧ seen = isFunction ∧ between.rest = tokens) ∧ between = done := by
      simpa using hread
    exact ⟨between, hvisibility, hrest⟩

/-- Every item accounts for its sites. -/
theorem accounts_rule (attributes : List Attribute) :
    Accounts modules ⟨.plain, found⟩ (rule rules attributes)
      fun item => ⟨.plain, found ++ item.sites modules⟩ := by
  have henumeration : Accounts modules ⟨.plain, found⟩
      (do return Item.enumeration (← enumeration rules attributes))
      fun item => ⟨.plain, found ++ item.sites modules⟩ := by
    exact (accounts_enumeration attributes).bind fun item => accounts_pure (by simp)
  unfold rule
  refine accounts_ahead? fun scope reading hspelled hvisible seen hseen => ?_
  have hpassed (parser : Parser Unit) [parser.Quiet] :
      AccountsFrom scope reading modules ⟨.plain, found⟩ (passed parser)
        fun item => ⟨.plain, found ++ item.sites modules⟩ :=
    accounts_passed parser hspelled hvisible
  -- The branches follow the order in which the rule looks for items. Modules and enumerations
  -- account for sites of their own, and all that is passed over quietly accounts for none.
  split
  · exact Quiet.accounts_bind _ (fun _ => accounts_pure (by simp)) hspelled hvisible
  · rename_i visibility isFunction tokens
    extract_lets first
    refine accountsFrom_ite (fun _ => hpassed _) (accountsFrom_ite (fun _ => hpassed _) ?_)
    refine accountsFrom_ite (fun _ => hpassed _) (accountsFrom_ite (fun _ => hpassed _) ?_)
    refine accountsFrom_ite (fun _ => hpassed _) (accountsFrom_ite (fun _ => ?_) ?_)
    · exact accounts_unsafeItem h hspelled hvisible
    refine accountsFrom_ite (fun _ => accounts_moduleItem h hspelled hvisible) ?_
    refine accountsFrom_ite (fun _ => hpassed _) (accountsFrom_ite (fun _ => hpassed _) ?_)
    refine accountsFrom_ite (fun _ => henumeration hspelled hvisible) ?_
    refine accountsFrom_ite (fun _ => hpassed _) (accountsFrom_ite (fun _ => hpassed _) ?_)
    refine accountsFrom_ite (fun _ => hpassed _) (accountsFrom_ite (fun _ => hpassed _) ?_)
    refine accountsFrom_ite (fun hfirst => ?_) (accountsFrom_ite (fun _ => hpassed _) ?_)
    · obtain ⟨last, hlook⟩ := hseen _ rfl
      obtain ⟨between, hbetween, hrest⟩ := rest_of_look hlook
      refine accounts_declarationItem hspelled hvisible fun found behind hfound => ?_
      obtain ⟨-, rfl⟩ : visibility = found ∧ between = behind := by
        simpa [hbetween] using hfound
      rw [hrest]
      exact hfirst
    · exact (Fails.of_next fun _ => fails_expectedAmong _).accountsFrom _

end ItemRule

namespace Grammar

open ValuedEnum.Parser ItemRule

/-- The rules of items account for their sites down to any depth. -/
theorem accountsItems_rules (limit depth : Nat) : AccountsItems (Grammar.rules limit depth) := by
  induction depth with
  | zero => exact fun _ _ _ => (fails_expectedAmong []).accounts _
  | succ depth ih => exact fun _ _ attributes => accounts_rule ih attributes

/-- The enumerations of a text stand where its tokens announce them. -/
theorem sites_of_file {tokens : TokenStream} (hspelled : tokens.Spelled)
    (hvisible : tokens.Visible) {file : SourceFile} (h : Grammar.file tokens = .ok file) :
    (Item.placedAll [] file).map Placed.site = announcedAll [] .plain tokens := by
  have hfile : announcedAll [] .plain tokens = [] ++ file.flatMap (Item.sites []) :=
    (accounts_file (accountsItems_rules _ _)).of_run hspelled hvisible h
  rw [hfile, Item.map_site_placedAll, List.nil_append]

end Grammar

/-! ### Texts -/

/-- A host that panics about no enumeration of a file finds all that have options, each of them once
and in their order, under the names of the modules around it. In the file of a text they stand where
the tokens of the text announce them, and nowhere else. -/
theorem Host.found_at_sites {host : Host} {file : SourceFile}
    (h : ∀ entry ∈ Item.placedAll [] file, ∃ answer, host.wrapperOptions entry.item = .ok answer) :
    host.found file = .ok ((Item.placedAll [] file).filterMap (Placed.found? host)) ∧
      (∀ entry ∈ Item.placedAll [] file, ∀ options, (entry.found options).space = entry.space) ∧
      ∀ text, SourceFile.ofText text = .ok file →
        ∃ tokens, SourceText.tokens text = .ok tokens ∧
          (Item.placedAll [] file).map Placed.site = announcedAll [] .plain tokens := by
  refine ⟨Host.found_eq_placed h, fun entry _ => entry.space_found, fun text htext => ?_⟩
  obtain ⟨tokens, htokens, hfile⟩ := SourceFile.exists_tokens_of_ofText htext
  have hspelled : tokens.Spelled := TokenStream.spelled_ofChars htokens
  have hvisible : tokens.Visible := TokenStream.visible_ofChars htokens
  exact ⟨tokens, htokens, Grammar.sites_of_file hspelled hvisible hfile⟩

/-- Enumerations in the body of a function, in the length of an array, in the arguments of a macro,
in a module, and behind it. -/
def patchwork : String :=
  "fn f() \x7b #[w(V)] enum A \x7b X \x7d \x7d " ++
  "mod a \x7b const N: [u8; \x7b #[w(V)] enum B \x7b X \x7d 1 \x7d] = m!(enum C \x7b\x7d); " ++
  "#[w(W)] enum D \x7b X \x7d enum E \x7b\x7d \x7d " ++
  "#[w] enum F \x7b\x7d"

/-- Only what stands in the module and behind it is found, where it has a wrapper. -/
theorem found_in_patchwork : ∃ file tokens,
    SourceFile.ofText patchwork = .ok file ∧ SourceText.tokens patchwork = .ok tokens ∧
      (Item.placedAll [] file).map Placed.site = announcedAll [] .plain tokens ∧
      ∃ found, (Host.ofSchema ⟨"w", "v"⟩).found file = .ok found ∧
        found.map (fun entry => (entry.fullName, entry.space)) =
          [("a::D", some "a"), ("F", none)] := by
  have hnames : (SourceFile.ofText patchwork).toOption.map (fun file =>
      ((Item.placedAll [] file).filterMap (Placed.found? (.ofSchema ⟨"w", "v"⟩))).map
        fun entry => (entry.fullName, entry.space)) =
        some [("a::D", some "a"), ("F", none)] := by
    decide +kernel
  cases hfile : SourceFile.ofText patchwork with
  | error problem => simp [hfile, Except.toOption] at hnames
  | ok file =>
    have hanswered : ∀ entry ∈ Item.placedAll [] file,
        ∃ answer, (Host.ofSchema ⟨"w", "v"⟩).wrapperOptions entry.item = .ok answer :=
      fun entry _ => ⟨_, rfl⟩
    obtain ⟨hfound, -, htext⟩ := Host.found_at_sites hanswered
    obtain ⟨tokens, htokens, hsites⟩ := htext patchwork hfile
    refine ⟨file, tokens, rfl, htokens, hsites, _, hfound, ?_⟩
    simpa [hfile, Except.toOption] using hnames

end ValuedEnum
