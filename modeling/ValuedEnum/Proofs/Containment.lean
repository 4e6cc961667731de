import ValuedEnum.Generation
import ValuedEnum.Host.Scripted
import ValuedEnum.Proofs.Resolution

/-!
# How far a fault reaches

All enumerations of a file are found before the first of them is resolved. What is wrong with one of
them when it is resolved stays with it. But a panic of the host while enumerations are found ends
the whole run. This file proves both, and that the other enumerations have the outcomes that they
have in a file without the faulty ones.
-/

namespace ValuedEnum

/-- An enumeration with the name that its modules give it. -/
structure Declared where
  fullName : String
  item : EnumItem

namespace Declared

/-- The enumeration with the options of its wrapper, if the host answers with any. -/
def found? (host : Host) (entry : Declared) : Option Found :=
  match host.wrapperOptions entry.item with
  | .ok (some options) => some ⟨entry.fullName, entry.item, options⟩
  | _ => none

/-- A host that is asked for the options of an enumeration and does not panic. -/
def Answered (host : Host) (entry : Declared) : Prop :=
  ∃ answer, host.wrapperOptions entry.item = .ok answer

/-- What is found if a host is asked about some enumerations, one after the other. -/
def ask (host : Host) : List Declared → Except Panic (List Found)
  | [] => .ok []
  | entry :: rest =>
    match host.wrapperOptions entry.item with
    | .error panic => .error panic
    | .ok _ =>
      match ask host rest with
      | .error panic => .error panic
      | .ok back => .ok ((entry.found? host).toList ++ back)

variable {host : Host}

/-- A host that panics about none of some enumerations finds those that have options. -/
theorem ask_of_answered {entries : List Declared} (h : ∀ entry ∈ entries, entry.Answered host) :
    ask host entries = .ok (entries.filterMap (found? host)) := by
  induction entries with
  | nil => rfl
  | cons entry rest ih =>
    obtain ⟨⟨answer, hanswer⟩, hrest⟩ := List.forall_mem_cons.mp h
    have hback : ask host rest = .ok (rest.filterMap (found? host)) := ih hrest
    have hcons : (entry :: rest).filterMap (found? host) =
        (entry.found? host).toList ++ rest.filterMap (found? host) := by
      cases hfound : entry.found? host with
      | none => simp [hfound]
      | some found => simp [hfound]
    rw [ask, hanswer, hback, hcons]

/-- The panic that ends a search is the first one. -/
theorem ask_error_iff {entries : List Declared} {panic : Panic} :
    ask host entries = .error panic ↔ ∃ front entry back, entries = front ++ entry :: back ∧
      (∀ earlier ∈ front, earlier.Answered host) ∧
      host.wrapperOptions entry.item = .error panic := by
  constructor
  · intro h
    -- The enumeration with the panic is the first one that is not answered.
    induction entries with
    | nil => simp [ask] at h
    | cons first rest ih =>
      cases hfirst : host.wrapperOptions first.item with
      | error other =>
        have hsame : other = panic := by simpa [ask, hfirst] using h
        exact ⟨[], first, rest, rfl, by simp, hsame ▸ hfirst⟩
      | ok answer =>
        cases hrest : ask host rest with
        | ok found => simp [ask, hfirst, hrest] at h
        | error other =>
          have hsame : other = panic := by simpa [ask, hfirst, hrest] using h
          obtain ⟨front, entry, back, rfl, hfront, hentry⟩ := ih (hsame ▸ hrest)
          have hanswered : ∀ earlier ∈ first :: front, earlier.Answered host :=
            List.forall_mem_cons.mpr ⟨⟨answer, hfirst⟩, hfront⟩
          exact ⟨first :: front, entry, back, rfl, hanswered, hentry⟩
  · rintro ⟨front, entry, back, rfl, hfront, hentry⟩
    induction front with
    | nil => simp [ask, hentry]
    | cons first rest ih =>
      obtain ⟨⟨answer, hanswer⟩, hrest⟩ := List.forall_mem_cons.mp hfront
      simp [ask, hanswer, ih hrest]

/-- Questions about more enumerations come behind the first ones. -/
theorem ask_append (host : Host) (front back : List Declared) :
    ask host (front ++ back) = do
      let found ← ask host front
      return found ++ (← ask host back) := by
  induction front with
  | nil =>
    cases hback : ask host back <;> simp [ask, hback, bind, Except.bind, pure, Except.pure]
  | cons entry rest ih =>
    rw [List.cons_append, ask, ask, ih]
    cases host.wrapperOptions entry.item with
    | error panic => rfl
    | ok answer =>
      cases ask host rest with
      | error panic => rfl
      | ok second =>
        cases ask host back with
        | error panic => rfl
        | ok third => simp [bind, Except.bind, pure, Except.pure]

end Declared

namespace Item

/-! ### The enumerations of a file -/

mutual

/-- The enumerations of an item in their order, whether they have a wrapper or not. -/
def declared (modules : List String) : Item → List Declared
  | .module name items => declaredAll (modules ++ [name.text]) items
  | .enumeration item => [⟨qualified modules item.ident.text, item⟩]
  | .other => []

/-- The enumerations of some items, in their order. -/
def declaredAll (modules : List String) : List Item → List Declared
  | [] => []
  | item :: rest => item.declared modules ++ declaredAll modules rest

end

mutual

/-- An item without some of its enumerations. -/
def without (absent : EnumItem → Bool) : Item → List Item
  | .module name items => [.module name (withoutAll absent items)]
  | .enumeration item => if absent item then [] else [.enumeration item]
  | .other => [.other]

/-- Some items without some of their enumerations. -/
def withoutAll (absent : EnumItem → Bool) : List Item → List Item
  | [] => []
  | item :: rest => without absent item ++ withoutAll absent rest

end

/-- The enumerations of some items come in front of those of the items behind them. -/
theorem declaredAll_append (modules : List String) (front back : List Item) :
    declaredAll modules (front ++ back) =
      declaredAll modules front ++ declaredAll modules back := by
  induction front with
  | nil => rfl
  | cons item rest ih => rw [List.cons_append, declaredAll, declaredAll, ih, List.append_assoc]

mutual

/-- The enumerations that are left are the others, in their order. -/
theorem declaredAll_without (absent : EnumItem → Bool) (modules : List String) (item : Item) :
    declaredAll modules (item.without absent) =
      (item.declared modules).filter fun entry => !absent entry.item := by
  cases item with
  | module name items =>
    have hitems := declaredAll_withoutAll absent (modules ++ [name.text]) items
    simpa [without, declaredAll, declared] using hitems
  | enumeration item =>
    cases habsent : absent item <;> simp [without, declaredAll, declared, habsent]
  | other => rfl

/-- Without some of its enumerations a list of items has the others, in their order. -/
theorem declaredAll_withoutAll (absent : EnumItem → Bool) (modules : List String)
    (items : List Item) :
    declaredAll modules (withoutAll absent items) =
      (declaredAll modules items).filter fun entry => !absent entry.item := by
  cases items with
  | nil => rfl
  | cons item rest =>
    have hitem := declaredAll_without absent modules item
    have hrest := declaredAll_withoutAll absent modules rest
    rw [withoutAll, declaredAll_append, hitem, hrest, declaredAll, List.filter_append]

end

mutual

/-- A search asks the host about all enumerations in their order. -/
theorem found_eq_ask (host : Host) (modules : List String) (item : Item) :
    found host modules item = Declared.ask host (item.declared modules) := by
  cases item with
  | module name items => exact foundAll_eq_ask host (modules ++ [name.text]) items
  | enumeration item =>
    simp only [found, declared, Declared.ask, Declared.found?]
    cases host.wrapperOptions item with
    | error panic => rfl
    | ok answer => cases answer <;> rfl
  | other => rfl

/-- To search some items is to ask about their enumerations one after the other. -/
theorem foundAll_eq_ask (host : Host) (modules : List String) (items : List Item) :
    foundAll host modules items = Declared.ask host (declaredAll modules items) := by
  cases items with
  | nil => rfl
  | cons item rest =>
    have hitem := found_eq_ask host modules item
    have hrest := foundAll_eq_ask host modules rest
    rw [foundAll, declaredAll, Declared.ask_append, hitem, hrest]
    cases Declared.ask host (item.declared modules) with
    | error panic => rfl
    | ok front => cases Declared.ask host (declaredAll modules rest) <;> rfl

end

end Item

namespace Host

/-- A file is generated if the host panics about none of its enumerations. -/
theorem generate_of_answered {host : Host} {file : SourceFile}
    (h : ∀ entry ∈ Item.declaredAll [] file, entry.Answered host) :
    ∃ generation, host.generate file = .ok generation ∧ generation.outcomes =
      ((Item.declaredAll [] file).filterMap (Declared.found? host)).map (Found.outcome host) := by
  have hfound : host.found file =
      .ok ((Item.declaredAll [] file).filterMap (Declared.found? host)) := by
    rw [Host.found, Item.foundAll_eq_ask, Declared.ask_of_answered h]
  rw [generate, hfound]
  exact ⟨_, rfl, rfl⟩

/-- Whether a file is generated, and with which outcomes. The first panic about the options of an
enumeration is what the whole file comes to, and nothing else is. Without such a panic there is one
outcome for each enumeration with options, in their order. Enumerations may be taken out of a file,
among them all that the host panics about: the others keep the outcomes that they have by
themselves. -/
theorem generate_contains (host : Host) (file : SourceFile) :
    (∀ panic, host.generate file = .error panic ↔ ∃ front entry back,
      Item.declaredAll [] file = front ++ entry :: back ∧
      (∀ earlier ∈ front, earlier.Answered host) ∧
      host.wrapperOptions entry.item = .error panic) ∧
    ((∀ entry ∈ Item.declaredAll [] file, entry.Answered host) →
      ∃ generation, host.generate file = .ok generation ∧ generation.outcomes =
        ((Item.declaredAll [] file).filterMap (Declared.found? host)).map (Found.outcome host)) ∧
    ∀ absent : EnumItem → Bool,
      (∀ entry ∈ Item.declaredAll [] file, absent entry.item = false → entry.Answered host) →
      ∃ generation, host.generate (Item.withoutAll absent file) = .ok generation ∧
        generation.outcomes =
          (((Item.declaredAll [] file).filter fun entry => !absent entry.item).filterMap
            (Declared.found? host)).map (Found.outcome host) := by
  refine ⟨fun panic => ?_, generate_of_answered, fun absent hothers => ?_⟩
  · have hgenerate : host.generate file = .error panic ↔
        Declared.ask host (Item.declaredAll [] file) = .error panic := by
      rw [generate, Host.found, Item.foundAll_eq_ask]
      cases Declared.ask host (Item.declaredAll [] file) <;> simp
    rw [hgenerate, Declared.ask_error_iff]
  -- A file without some enumerations asks about the others only, and nothing ends that search.
  · have hleft := Item.declaredAll_withoutAll absent [] file
    have hanswered : ∀ entry ∈ Item.declaredAll [] (Item.withoutAll absent file),
        entry.Answered host := by
      intro entry hentry
      rw [hleft, List.mem_filter] at hentry
      obtain ⟨hdeclared, hpresent⟩ := hentry
      exact hothers entry hdeclared (by simpa using hpresent)
    obtain ⟨generation, hgeneration, houtcomes⟩ := generate_of_answered hanswered
    exact ⟨generation, hgeneration, by rw [houtcomes, hleft]⟩

/-- Two enumerations; the host panics about the first one. -/
def unansweredFile : SourceFile :=
  [.enumeration (.ofVariants "A" [] [.ofTexts "B" none none]),
    .enumeration (.ofVariants "C" [] [.ofTexts "D" none none])]

/-- A host that panics about an enumeration. -/
def unansweringHost : Host :=
  Script.host
    { schema := .standard, ignored := [], unknown := ["A"], suffix := "Values",
      convertOrdinal := true, throwOnCastFailure := false, panicText := [], panicNamed := [],
      panicSilent := [], rejected := [], values := [("B", ["1"]), ("D", ["2"])],
      initializers := none }

/-- A panic about the first enumeration is not contained: the second one has a unit in a file of its
own, and none beside the first one. -/
theorem generate_of_unanswered :
    unansweringHost.generate unansweredFile = .error (.text "no arguments for A") ∧
      ∃ generation,
        unansweringHost.generate (Item.withoutAll (·.ident.text = "A") unansweredFile) =
          .ok generation ∧
        generation.units.map SourceUnit.name = ["CValues.rs"] := by
  refine ⟨rfl, _, rfl, ?_⟩
  rfl

end Host

end ValuedEnum
