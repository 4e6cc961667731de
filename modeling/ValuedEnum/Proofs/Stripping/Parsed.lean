import ValuedEnum.Proofs.Arguments.Terminal
import ValuedEnum.Proofs.Placement.Items

/-!
# Enumerations as they are read

Not every value of an enumeration has tokens that can be read again. This file proves what is needed
of those that come from a file: their names are no headings, their generics and constraints hold
none, and their attributes are such that a reader can tell their paths again.
-/

namespace ValuedEnum

/-- An attribute as a reader returns it: the word `unsafe` is a whole path, and the arguments are in
sight. -/
structure Attribute.Parsed (attr : Attribute) : Prop where
  path : attr.path.first.text = "unsafe" → attr.path.rest = []
  body : ∀ content span, attr.body ≠ .list .invisible content span

/-- An enumeration as a reader returns it. -/
structure EnumItem.Parsed (item : EnumItem) : Prop where
  attributes : ∀ attr ∈ item.attributes, attr.Parsed
  ident : item.ident.isName = true
  generics : item.generics.Headless
  constraints : item.constraints.Headless

/-- All enumerations of an item have a property. -/
def Item.Declares (holds : EnumItem → Prop) (item : Item) : Prop :=
  ∀ modules, ∀ entry ∈ item.declared modules, holds entry.item

namespace Item

variable {holds : EnumItem → Prop}

/-- What is no enumeration and no module declares nothing. -/
theorem declares_other : Item.other.Declares holds := fun _ => by simp [declared]

/-- An enumeration declares itself. -/
theorem declares_enumeration {item : EnumItem} (h : holds item) :
    (Item.enumeration item).Declares holds :=
  fun _ => by simpa [declared] using h

/-- What all items of a list declare has the property, in any module. -/
theorem declares_declaredAll {items : List Item} (h : ∀ item ∈ items, item.Declares holds)
    (modules : List String) : ∀ entry ∈ declaredAll modules items, holds entry.item := by
  induction items with
  | nil => simp [declaredAll]
  | cons item rest ih =>
    obtain ⟨hitem, hrest⟩ := List.forall_mem_cons.mp h
    rw [declaredAll]
    exact List.forall_mem_append.mpr ⟨hitem modules, ih hrest⟩

/-- A module declares what its items declare. -/
theorem declares_module {items : List Item} (h : ∀ item ∈ items, item.Declares holds)
    (name : Ident) : (Item.module name items).Declares holds := by
  intro modules
  rw [declared]
  exact declares_declaredAll h _

end Item

/-- All enumerations of an item are as a reader returns them. -/
def Item.Parsed (item : Item) : Prop := item.Declares EnumItem.Parsed

open ValuedEnum.Parser

/-! ### Tokens -/

namespace Parser

variable {α β : Type}

/-- What is told of results may be weakened. -/
theorem Tells.mono {parser : Parser α} {post wider : α → Prop} (h : parser.Tells post)
    (hpost : ∀ result, post result → wider result) : parser.Tells wider :=
  fun _ _ result _ hrun => hpost result (h hrun)

section Words

variable {scope : Scope} {reading done : Reading}

/-- A word that is read is the next one. -/
theorem word?_of_anyWord {ident : Ident} (h : anyWord scope reading = .ok (ident, done)) :
    reading.rest.word? = some (ident, done.rest) := by
  unfold anyWord at h
  rw [remaining_bind] at h
  cases hword : reading.rest.word? with
  | none =>
    simp only [hword] at h
    exact absurd h (fails_expected _).ne_ok
  | some read =>
    simp only [hword, advance_bind, pure_eq_ok_iff] at h
    obtain ⟨rfl, rfl⟩ := h
    rfl

/-- A name that is read is the next word, and it is not reserved. -/
theorem word?_of_name {ident : Ident} (h : name scope reading = .ok (ident, done)) :
    reading.rest.word? = some (ident, done.rest) ∧ ident.isName = true := by
  unfold name at h
  rw [remaining_bind] at h
  cases hword : reading.rest.word? with
  | none =>
    simp only [hword] at h
    exact absurd h (fails_expected _).ne_ok
  | some read =>
    by_cases hname : read.1.isName = true
    · simp only [hword, hname, if_true, advance_bind, pure_eq_ok_iff] at h
      obtain ⟨rfl, rfl⟩ := h
      exact ⟨rfl, hname⟩
    · simp only [hword, hname] at h
      exact absurd h (fails_failHere _).ne_ok

/-- A given word is read only where it comes next. -/
theorem word?_of_word {text : String} {span : Span}
    (h : word text scope reading = .ok (span, done)) :
    ∃ ident, reading.rest.word? = some (ident, done.rest) ∧ ident.text = text := by
  unfold word at h
  rw [remaining_bind] at h
  cases hword : reading.rest.word? with
  | none =>
    simp only [hword] at h
    exact absurd h (fails_expected _).ne_ok
  | some read =>
    by_cases htext : read.1.text = text
    · simp only [hword, htext, if_true, advance_bind, pure_eq_ok_iff] at h
      obtain ⟨-, rfl⟩ := h
      exact ⟨read.1, rfl, htext⟩
    · simp only [hword, htext] at h
      exact absurd h (fails_expected _).ne_ok

/-- A given word is skipped only where it comes next. -/
theorem word?_of_take {text : String} {result : Unit}
    (h : take (.word text) scope reading = .ok (result, done)) :
    ∃ ident, reading.rest.word? = some (ident, done.rest) ∧ ident.text = text := by
  obtain ⟨_, between, hword, hrun⟩ := bind_eq_ok_iff.mp h
  obtain ⟨-, rfl⟩ := pure_eq_ok_iff.mp hrun
  exact word?_of_word hword

/-- To ask for the location leaves a reading where it is. -/
theorem eq_of_location {span : Span} (h : location scope reading = .ok (span, done)) :
    reading = done := by
  obtain ⟨rest, printed, stray⟩ := reading
  cases rest with
  | nil =>
    obtain ⟨-, hdone⟩ := Prod.mk.inj (Except.ok.inj h)
    exact hdone
  | cons tree rest =>
    obtain ⟨-, hdone⟩ := Prod.mk.inj (Except.ok.inj h)
    exact hdone

/-- Looking ahead leaves a reading where it is. -/
theorem eq_of_ahead? {parser : Parser α} {seen : Option α}
    (h : ahead? parser scope reading = .ok (seen, done)) :
    reading = done ∧ ∀ result ∈ seen, ∃ last, parser scope reading = .ok (result, last) := by
  unfold ahead? at h
  cases hlook : parser scope reading with
  | error problem =>
    rw [hlook] at h
    obtain ⟨rfl, hdone⟩ := Prod.mk.inj (Except.ok.inj h)
    exact ⟨hdone, by simp⟩
  | ok read =>
    rw [hlook] at h
    obtain ⟨rfl, hdone⟩ := Prod.mk.inj (Except.ok.inj h)
    exact ⟨hdone, by simpa using ⟨read.2, rfl⟩⟩

/-- A given operator is read only where it comes next. -/
theorem sign?_of_sign {text : String} {span : Span}
    (h : sign text scope reading = .ok (span, done)) :
    ∃ spans, reading.rest.sign? text.toList = some (spans, done.rest) := by
  unfold sign at h
  rw [remaining_bind] at h
  cases hsign : reading.rest.sign? text.toList with
  | none =>
    simp only [hsign] at h
    cases hpunct : reading.rest.punct? with
    | none =>
      simp only [hpunct] at h
      exact absurd h (Fails.of_next fun _ => fails_fail _ _).ne_ok
    | some found =>
      simp only [hpunct] at h
      exact absurd h (fails_fail _ _).ne_ok
  | some read =>
    have hdone : reading.advanced read.2 (spelled text.toList read.1) = done := by
      simp only [hsign, advance_bind] at h
      cases hfirst : read.1.head? with
      | none =>
        simp only [hfirst] at h
        exact eq_of_location h
      | some first =>
        cases hlast : read.1.getLast? with
        | none =>
          simp only [hfirst, hlast] at h
          exact eq_of_location h
        | some last =>
          simp only [hfirst, hlast, pure_eq_ok_iff] at h
          exact h.2
    exact ⟨read.1, by rw [← hdone]; rfl⟩

/-- A given operator is skipped only where it comes next. -/
theorem sign?_of_take {text : String} {result : Unit}
    (h : take (.sign text) scope reading = .ok (result, done)) :
    ∃ spans, reading.rest.sign? text.toList = some (spans, done.rest) := by
  obtain ⟨_, between, hsign, hrun⟩ := bind_eq_ok_iff.mp h
  obtain ⟨-, rfl⟩ := pure_eq_ok_iff.mp hrun
  exact sign?_of_sign hsign

end Words

/-- A name is not reserved. -/
theorem tells_name : name.Tells fun ident => ident.isName = true :=
  fun _ _ _ _ hrun => (word?_of_name hrun).2

/-- A group that is taken as it is has visible delimiters. -/
theorem tells_verbatimGroup : verbatimGroup.Tells fun group => group.1 ≠ .invisible := by
  refine .of_next fun tokens => ?_
  split
  · rename_i delimiter inner span rest
    by_cases hinvisible : delimiter = .invisible
    · rw [if_pos hinvisible]
      exact (fails_expected _).tells _
    · rw [if_neg hinvisible]
      exact .of_next fun _ => tells_pure hinvisible
  · exact (fails_expected _).tells _

/-- What is read in a group, and what the group was. -/
theorem delimited_eq_ok {delimiter : Delimiter} {content : Parser α} {scope : Scope}
    {reading done : Reading} {read : α × Span}
    (h : delimited delimiter content scope reading = .ok (read, done)) :
    ∃ inner last, reading.rest.group? delimiter = some (inner, read.2, done.rest) ∧
      content ⟨read.2.last, delimiter⟩ ⟨inner, [], reading.stray⟩ = .ok (read.1, last) := by
  unfold delimited at h
  split at h
  · exact absurd h (fails_expected _).ne_ok
  · rename_i inner span rest hgroup
    split at h
    · simp at h
    · rename_i result last hread
      obtain ⟨rfl, rfl⟩ : _ = read ∧ _ = done := by simpa using h
      exact ⟨inner, last, hgroup, hread⟩

/-- What is told of the content of a group holds of what is read in it. -/
theorem tells_delimited {content : Parser α} {post : α → Prop} (h : content.Tells post)
    (delimiter : Delimiter) : (delimited delimiter content).Tells fun read => post read.1 := by
  intro scope reading result done hrun
  obtain ⟨_, _, _, hread⟩ := delimited_eq_ok hrun
  exact h hread

/-- What is told of one element holds of all that are read. -/
theorem tells_whileSeen {parser : Parser α} {post : α → Prop} (h : parser.Tells post)
    (bound : Nat) (condition : TokenStream → Bool) :
    (whileSeen bound condition parser).Tells fun all => ∀ item ∈ all, post item := by
  unfold whileSeen
  induction bound with
  | zero => exact tells_pure (by simp)
  | succ bound ih =>
    have hstep : Tells (do
        if condition (← remaining) then return some (← parser) else return none)
        fun found => ∀ item ∈ found, post item :=
      .of_next fun tokens => tells_ite
        (h.bind fun item hitem => tells_pure (by simpa using hitem)) (tells_pure (by simp))
    refine hstep.bind fun found hfound => ?_
    split
    · refine ih.bind fun rest hrest => tells_pure ?_
      exact List.forall_mem_cons.mpr ⟨hfound _ rfl, hrest⟩
    · exact tells_pure (by simp)

section Repeated

variable {scope : Scope} {reading done : Reading} {condition : TokenStream → Bool}
  {parser : Parser α} {bound : Nat} {all : List α}

/-- A repetition ends in front of a token that does not start an element. -/
theorem whileSeen_stops (hcondition : condition reading.rest = false)
    (h : whileSeen bound condition parser scope reading = .ok (all, done)) :
    all = [] ∧ reading = done := by
  cases bound with
  | zero =>
    obtain ⟨rfl, rfl⟩ := pure_eq_ok_iff.mp h
    exact ⟨rfl, rfl⟩
  | succ bound =>
    obtain ⟨found, between, hstep, hmore⟩ := bind_eq_ok_iff.mp h
    simp only [remaining_bind, hcondition, Bool.false_eq_true, if_false] at hstep
    obtain ⟨rfl, rfl⟩ := pure_eq_ok_iff.mp hstep
    obtain ⟨rfl, rfl⟩ := pure_eq_ok_iff.mp hmore
    exact ⟨rfl, rfl⟩

/-- A repetition reads an element in front of any other token, and goes on behind it. -/
theorem whileSeen_goes (hcondition : condition reading.rest = true)
    (h : whileSeen (bound + 1) condition parser scope reading = .ok (all, done)) :
    ∃ first between rest, parser scope reading = .ok (first, between) ∧
      whileSeen bound condition parser scope between = .ok (rest, done) ∧ all = first :: rest := by
  obtain ⟨found, between, hstep, hmore⟩ := bind_eq_ok_iff.mp h
  simp only [remaining_bind, hcondition, if_true] at hstep
  obtain ⟨first, second, hfirst, hsome⟩ := bind_eq_ok_iff.mp hstep
  obtain ⟨rfl, rfl⟩ := pure_eq_ok_iff.mp hsome
  obtain ⟨rest, third, hrest, hcons⟩ := bind_eq_ok_iff.mp hmore
  obtain ⟨rfl, rfl⟩ := pure_eq_ok_iff.mp hcons
  exact ⟨first, second, rest, hfirst, hrest, rfl⟩

end Repeated

/-- What is told of results holds of those of a whole run. -/
theorem Tells.of_run {parser : Parser α} {post : α → Prop} (h : parser.Tells post) {scope : Scope}
    {tokens : TokenStream} {result : α} (hrun : parser.run scope tokens = .ok result) :
    post result := by
  obtain ⟨done, hread, _⟩ := run_eq_ok_iff.mp hrun
  exact h hread

end Parser

/-! ### Attributes -/

namespace Path

section Segments

variable {scope : Scope} {reading done : Reading}

/-- A path has no segments here, or a first one, and more of them behind `::`. -/
theorem segments_cases {bound : Nat} {all : List Ident}
    (h : segmentsParser (bound + 1) scope reading = .ok (all, done)) :
    (all = [] ∧ reading = done ∧ segmentStarts.any reading.rest.startsWith = false) ∨
      ∃ ident rest, segmentStarts.any reading.rest.startsWith = true ∧
        reading.rest.word? = some (ident, rest) ∧
        ((rest.startsWith (.sign "::") = false ∧ all = [ident]) ∨
          ∃ spans behind more between, rest.sign? [':', ':'] = some (spans, behind) ∧
            between.rest = behind ∧ segmentsParser bound scope between = .ok (more, done) ∧
            more ≠ [] ∧ all = ident :: more) := by
  unfold segmentsParser at h
  change (if (!segmentStarts.any reading.rest.startsWith) = true then (pure [] : Parser _) else _)
    scope reading = .ok (all, done) at h
  cases hany : segmentStarts.any reading.rest.startsWith with
  | false =>
    simp only [hany, Bool.not_false, if_true, pure_eq_ok_iff] at h
    exact .inl ⟨h.1.symm, h.2, rfl⟩
  | true =>
    simp only [hany, Bool.not_true, Bool.false_eq_true, if_false] at h
    obtain ⟨ident, first, hword, hrun⟩ := bind_eq_ok_iff.mp h
    refine .inr ⟨ident, first.rest, rfl, word?_of_anyWord hword, ?_⟩
    rw [sees_bind] at hrun
    cases hcolons : first.rest.startsWith (.sign "::") with
    | false =>
      simp only [hcolons, Bool.false_eq_true, if_false, pure_eq_ok_iff] at hrun
      exact .inl ⟨rfl, hrun.1.symm⟩
    | true =>
      simp only [hcolons, if_true] at hrun
      obtain ⟨_, second, hsign, hrest⟩ := bind_eq_ok_iff.mp hrun
      obtain ⟨spans, hspans⟩ := sign?_of_take hsign
      obtain ⟨more, third, hmore, hlast⟩ := bind_eq_ok_iff.mp hrest
      cases more with
      | nil => exact absurd hlast (fails_expected _).ne_ok
      | cons next more =>
        obtain ⟨rfl, rfl⟩ := pure_eq_ok_iff.mp hlast
        exact .inr ⟨spans, _, _, second, hspans, rfl, hmore, by simp, rfl⟩

end Segments

/-- A segment of a path starts with a word other than `unsafe`. -/
theorem ne_unsafe_of_segmentStarts {tokens rest : TokenStream} {ident : Ident}
    (hany : segmentStarts.any tokens.startsWith = true)
    (hword : tokens.word? = some (ident, rest)) : ident.text ≠ "unsafe" := by
  intro hmark
  simp [segmentStarts, TokenStream.startsWith, Terminal.starts, hword, Ident.isName, reserved,
    hmark] at hany

/-- No segment is the word `unsafe`. -/
theorem tells_segmentsParser (bound : Nat) :
    (segmentsParser bound).Tells fun all => ∀ ident ∈ all, ident.text ≠ "unsafe" := by
  induction bound with
  | zero => exact tells_pure (by simp)
  | succ bound ih =>
    intro scope reading all done hrun
    rcases segments_cases hrun with ⟨rfl, -⟩ | ⟨ident, rest, hany, hword, hmore⟩
    · simp
    · have hident : ident.text ≠ "unsafe" := ne_unsafe_of_segmentStarts hany hword
      rcases hmore with ⟨-, rfl⟩ | ⟨_, _, more, _, _, _, hmore, _, rfl⟩
      · simpa using hident
      · exact List.forall_mem_cons.mpr ⟨hident, ih hmore⟩

/-- A name is not `unsafe`, since that word is reserved. -/
theorem tells_name_ne_unsafe : name.Tells fun ident => ident.text ≠ "unsafe" := by
  refine tells_name.mono fun ident hident hmark => ?_
  simp [Ident.isName, hmark, reserved] at hident

/-- A path starts with a word other than `unsafe`. -/
theorem tells_first : parser.Tells fun path => path.first.text ≠ "unsafe" := by
  unfold parser
  refine .of_next fun seen => ?_
  extract_lets behind
  have hbehind (leading : Option Span) :
      (behind leading).Tells fun path => path.first.text ≠ "unsafe" := by
    refine .of_next fun tokens => (tells_segmentsParser _).bind fun all hall => ?_
    split
    · exact tells_pure (hall _ List.mem_cons_self)
    · exact tells_name_ne_unsafe.bind fun ident hident => tells_pure hident
  split
  · exact .of_next fun span => .of_next hbehind
  · exact .of_next hbehind

end Path

namespace Attribute

/-- The path of an attribute is the word `unsafe` alone, or one without it in front. -/
theorem tells_pathParser :
    pathParser.Tells fun path => path.first.text = "unsafe" → path.rest = [] := by
  unfold pathParser
  refine .of_next fun seen => tells_ite ?_ ?_
  · exact .of_next fun ident => tells_pure fun _ => rfl
  · exact Path.tells_first.mono fun path hpath hmark => absurd hmark hpath

/-- The arguments of an attribute have visible delimiters. -/
theorem tells_bodyParser (rules : Rules) :
    (bodyParser rules).Tells fun body => ∀ content span, body ≠ .list .invisible content span := by
  unfold bodyParser
  refine .of_next fun grouped => tells_ite ?_ (.of_next fun assigned => tells_ite ?_ ?_)
  · refine tells_verbatimGroup.bind fun group hgroup => tells_pure fun content span => ?_
    simp [hgroup]
  · exact .of_next fun equals => .of_next fun value => tells_pure (by simp)
  · exact tells_pure (by simp)

/-- All attributes that are read are as a reader returns them. -/
theorem tells_outerAll (rules : Rules) :
    (outerAll rules).Tells fun attributes => ∀ attr ∈ attributes, attr.Parsed := by
  have hcontent : (contentParser rules).Tells fun content =>
      (content.1.first.text = "unsafe" → content.1.rest = []) ∧
        ∀ inner span, content.2 ≠ .list .invisible inner span :=
    tells_pathParser.bind fun path hpath =>
      (tells_bodyParser rules).bind fun body hbody => tells_pure ⟨hpath, hbody⟩
  have houter : (outerParser rules).Tells Attribute.Parsed := by
    refine .of_next fun pound => (tells_delimited hcontent .bracket).bind fun read hread => ?_
    exact tells_pure ⟨hread.1, hread.2⟩
  exact tells_whileSeen houter _ _

end Attribute

/-! ### Items -/

namespace ItemRule

open Generics

section Reads

variable (rules : Rules) (attributes : List Attribute) (scope : Scope) (reading : Reading)

/-- How an item is read. -/
inductive Reads : Item → Reading → Prop
  | other {done : Reading} (h : Passed reading done) : Reads .other done
  | enumeration {item : EnumItem} {done : Reading}
      (h : enumeration rules attributes scope reading = .ok (item, done)) :
      Reads (.enumeration item) done
  | module {item : Item} {done : Reading} (h : moduleItem rules scope reading = .ok (item, done)) :
      Reads item done

/-- A parser that reads an item in one of these ways. -/
def ReadsFrom (parser : Parser Item) : Prop :=
  ∀ ⦃item : Item⦄ ⦃done : Reading⦄, parser scope reading = .ok (item, done) →
    Reads rules attributes scope reading item done

variable {rules attributes scope reading}

/-- A parser with two branches reads in one of the ways of its branches. -/
theorem readsFrom_ite {condition : Prop} [Decidable condition] {first second : Parser Item}
    (hfirst : condition → ReadsFrom rules attributes scope reading first)
    (hsecond : ReadsFrom rules attributes scope reading second) :
    ReadsFrom rules attributes scope reading (if condition then first else second) := by
  split
  · exact hfirst ‹_›
  · exact hsecond

/-- A parser that fails reads nothing. -/
theorem readsFrom_fails {parser : Parser Item} (h : parser.Fails) :
    ReadsFrom rules attributes scope reading parser :=
  fun _ _ hrun => absurd hrun h.ne_ok

/-- What is read and dropped stands for some other item. -/
theorem readsFrom_other (parser : Parser α) [hparser : parser.Quiet] :
    ReadsFrom rules attributes scope reading (do let _ ← parser; return .other) := by
  intro item done hrun
  obtain ⟨result, between, hfirst, hrest⟩ := bind_eq_ok_iff.mp hrun
  obtain ⟨rfl, rfl⟩ := pure_eq_ok_iff.mp hrest
  exact .other (hparser.passes trivial hfirst)

/-- What is read as a module is read in one of these ways. -/
theorem readsFrom_moduleItem : ReadsFrom rules attributes scope reading (moduleItem rules) :=
  fun _ _ hrun => .module hrun

/-- Behind `unsafe` a module or some other item is read. -/
theorem readsFrom_unsafeItem [rules.Keep] :
    ReadsFrom rules attributes scope reading (unsafeItem rules) := by
  intro item done hrun
  obtain ⟨parsed, between, hlook, hrest⟩ := bind_eq_ok_iff.mp hrun
  obtain ⟨rfl, -⟩ := eq_of_ahead? hlook
  cases parsed with
  | none => exact readsFrom_other Visibility.parser hrest
  | some tokens =>
    refine readsFrom_ite (fun _ => readsFrom_other (traitItem rules)) ?_ hrest
    refine readsFrom_ite (fun _ => readsFrom_other (implItem rules)) ?_
    refine readsFrom_ite (fun _ => readsFrom_other (foreignModule rules)) ?_
    refine readsFrom_ite (fun _ => readsFrom_moduleItem) (readsFrom_fails ?_)
    exact .of_next fun _ => .of_next fun _ => fails_expectedAmong _

/-- Only enumerations and modules are kept. -/
theorem reads_rule [rules.Keep] :
    ReadsFrom rules attributes scope reading (rule rules attributes) := by
  intro item done hrun
  obtain ⟨found, between, hahead, hrest⟩ := bind_eq_ok_iff.mp hrun
  obtain ⟨rfl, hseen⟩ := eq_of_ahead? hahead
  have hpassed (parser : Parser Unit) [parser.Quiet] :
      ReadsFrom rules attributes scope reading (passed parser) := readsFrom_other parser
  cases found with
  | none => exact readsFrom_other Visibility.parser hrest
  | some seen =>
    -- The branches follow the order in which the rule looks for items.
    obtain ⟨visibility, isFunction, tokens⟩ := seen
    refine readsFrom_ite (fun _ => hpassed _) (readsFrom_ite (fun _ => hpassed _) ?_) hrest
    refine readsFrom_ite (fun _ => hpassed _) (readsFrom_ite (fun _ => hpassed _) ?_)
    refine readsFrom_ite (fun _ => hpassed _) (readsFrom_ite (fun _ => readsFrom_unsafeItem) ?_)
    refine readsFrom_ite (fun _ => readsFrom_moduleItem) (readsFrom_ite (fun _ => hpassed _) ?_)
    refine readsFrom_ite (fun _ => hpassed _) (readsFrom_ite (fun _ => ?_) ?_)
    · intro item done hitem
      obtain ⟨read, last, hread, hreturn⟩ := bind_eq_ok_iff.mp hitem
      obtain ⟨rfl, rfl⟩ := pure_eq_ok_iff.mp hreturn
      exact .enumeration hread
    refine readsFrom_ite (fun _ => hpassed _) (readsFrom_ite (fun _ => hpassed _) ?_)
    refine readsFrom_ite (fun _ => hpassed _) (readsFrom_ite (fun _ => hpassed _) ?_)
    refine readsFrom_ite (fun hfirst => ?_) (readsFrom_ite (fun _ => hpassed _) ?_)
    · intro item done hitem
      obtain ⟨_, last, hdeclaration, hreturn⟩ := bind_eq_ok_iff.mp hitem
      obtain ⟨rfl, rfl⟩ := pure_eq_ok_iff.mp hreturn
      obtain ⟨_, hlook⟩ := hseen _ rfl
      obtain ⟨behind, hbehind, htokens⟩ := rest_of_look hlook
      refine .other (passed_of_declarationItem (fun found other hfound => ?_) hdeclaration)
      obtain ⟨-, rfl⟩ : visibility = found ∧ behind = other := by simpa [hbehind] using hfound
      exact htokens ▸ hfirst
    · exact readsFrom_fails (.of_next fun _ => fails_expectedAmong _)

end Reads

variable (rules : Rules) [hkeep : rules.Keep]

/-- An enumeration behind such attributes is one that a reader returns. -/
theorem tells_enumeration {attributes : List Attribute}
    (hattributes : ∀ attr ∈ attributes, attr.Parsed) :
    (enumeration rules attributes).Tells EnumItem.Parsed := by
  unfold enumeration
  refine .of_next fun visibility => .of_next fun _ => tells_name.bind fun ident hident => ?_
  refine (tells_captured (parameters rules)).bind fun generics hgenerics => ?_
  refine (tells_captured (constraints rules)).bind fun constraints hconstraints => ?_
  exact .of_next fun body => tells_pure ⟨hattributes, hident, hgenerics, hconstraints⟩

/-- Rules that read enumerations behind attributes that were read. -/
def TellsItems (rules : Rules) : Prop :=
  ∀ attributes : List Attribute, (∀ attr ∈ attributes, attr.Parsed) →
    (rules.item attributes).Tells Item.Parsed

variable {rules} (h : TellsItems rules)
include h

omit hkeep in
/-- All items of a file are as a reader returns them. -/
theorem tells_file : (file rules).Tells fun items => ∀ item ∈ items, item.Parsed := by
  have hitem : Tells (do rules.item (← Attribute.outerAll rules)) Item.Parsed :=
    (Attribute.tells_outerAll rules).bind h
  exact .of_next fun _ => tells_whileSeen hitem _ _

omit hkeep in
/-- The items of a module are as a reader returns them. -/
theorem tells_moduleItem : (moduleItem rules).Tells Item.Parsed := by
  unfold moduleItem
  refine .of_next fun visibility => .of_next fun _ => .of_next fun _ => .of_next fun raw => ?_
  extract_lets body
  have hbody (ident : Ident) : (body ident).Tells Item.Parsed := by
    refine .of_next fun ended => tells_ite ?_ (.of_next fun braced => tells_ite ?_ ?_)
    · exact tells_pure (Item.declares_module (by simp) ident)
    · refine (tells_delimited (tells_file h) .brace).bind fun read hitems => ?_
      exact tells_pure (Item.declares_module hitems ident)
    · exact (fails_expectedAmong _).tells _
  exact tells_ite (.of_next hbody) (.of_next hbody)

/-- An enumeration is read behind its attributes, a module is read like a file, and all other items
are passed over. -/
theorem tells_rule {attributes : List Attribute}
    (hattributes : ∀ attr ∈ attributes, attr.Parsed) :
    (rule rules attributes).Tells Item.Parsed := by
  intro scope reading item done hrun
  cases reads_rule hrun with
  | other => exact Item.declares_other
  | enumeration henumeration =>
    exact Item.declares_enumeration (tells_enumeration rules hattributes henumeration)
  | module hmodule => exact tells_moduleItem h hmodule

end ItemRule

namespace Grammar

open ItemRule

/-- At any depth the rules of the grammar read such items. -/
theorem tellsItems_rules (limit depth : Nat) : TellsItems (Grammar.rules limit depth) := by
  induction depth with
  | zero => exact fun _ _ => (fails_expectedAmong []).tells _
  | succ depth ih => exact fun _ hattributes => tells_rule ih hattributes

/-- All enumerations of a file are as a reader returns them. -/
theorem parsed_of_file {tokens : TokenStream} {file : SourceFile}
    (h : Grammar.file tokens = .ok file) :
    ∀ entry ∈ Item.declaredAll [] file, entry.item.Parsed := by
  have hfile : ∀ item ∈ file, item.Parsed := (tells_file (tellsItems_rules _ _)).of_run h
  exact Item.declares_declaredAll hfile []

end Grammar

end ValuedEnum
