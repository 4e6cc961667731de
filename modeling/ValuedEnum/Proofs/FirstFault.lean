import ValuedEnum.Generation
import ValuedEnum.Proofs.Resolution

/-!
# The first fault

An annotated enumeration is checked in a fixed order: its options, whether it has variants, its
representation, and then variant by variant the fields, the initializer and the values. This file
says what each check finds wrong without saying how the search runs, and proves that the search
stops at the first check that finds something, with what this check finds.
-/

namespace ValuedEnum

/-! ### The order of checks -/

/-- What is checked of a variant. -/
inductive Phase where
  | fields
  | initializer
  | values
deriving DecidableEq, Repr

namespace Phase

/-- The position of a phase. -/
def rank : Phase → Nat
  | fields => 0
  | initializer => 1
  | values => 2

/-- Phases are told apart by their ranks. -/
theorem rank_injective {first second : Phase} (h : first.rank = second.rank) : first = second := by
  cases first <;> cases second <;> simp_all [rank]

end Phase

/-- A check of an enumeration. Attributes and variants go by their positions. -/
inductive Check where
  | options
  | variants
  | representation (index : Nat)
  | variant (index : Nat) (phase : Phase)
deriving DecidableEq, Repr

namespace Check

/-- Checks are made in the order of their ranks. -/
def rank : Check → List Nat
  | options => [0]
  | variants => [1]
  | representation index => [2, index]
  | variant index phase => [3, index, phase.rank]

/-- Of two checks, one comes first. -/
theorem rank_lt_or_eq_or_gt (first second : Check) :
    first.rank < second.rank ∨ first = second ∨ second.rank < first.rank := by
  cases first <;> cases second <;> simp only [rank, List.cons_lt_cons_iff] <;> try simp
  · omega
  · rename_i index phase other another
    by_cases hphase : phase = another
    · subst hphase
      simp
      omega
    · have hne : phase.rank ≠ another.rank := fun h => hphase (Phase.rank_injective h)
      omega

/-- Nothing is checked before the options. -/
theorem not_rank_lt_options (check : Check) : ¬ check.rank < options.rank := by
  cases check <;> simp [rank, List.cons_lt_cons_iff]

variable {check : Check} {index : Nat} {phase : Phase}

/-- Only the options are checked before the number of variants. -/
theorem rank_lt_variants_iff : check.rank < variants.rank ↔ check = options := by
  cases check <;> simp [rank, List.cons_lt_cons_iff]

/-- Representation attributes are checked in their order, behind the options and the number of
variants. -/
theorem rank_lt_representation_iff :
    check.rank < (representation index).rank ↔
      check = options ∨ check = variants ∨
        ∃ earlier, earlier < index ∧ check = representation earlier := by
  cases check <;> simp [rank, List.cons_lt_cons_iff]

/-- Everything else is checked before the variants, and these are checked in their order. -/
theorem rank_lt_variant_iff :
    check.rank < (variant index phase).rank ↔
      check = options ∨ check = variants ∨ (∃ earlier, check = representation earlier) ∨
        ∃ earlier before, check = variant earlier before ∧
          (earlier < index ∨ earlier = index ∧ before.rank < phase.rank) := by
  cases check with
  | variant earlier before => simp [rank, List.cons_lt_cons_iff, and_assoc]
  | _ => simp [rank, List.cons_lt_cons_iff]

variable {φ : Type}

/-- A check that finds a fault while no earlier one finds any. -/
def IsFirst (finds : Check → φ → Prop) (check : Check) (fault : φ) : Prop :=
  finds check fault ∧ ∀ earlier other, finds earlier other → ¬ earlier.rank < check.rank

/-- There is one first fault. -/
theorem IsFirst.unique {finds : Check → φ → Prop} {first second : Check} {fault other : φ}
    (hfirst : IsFirst finds first fault)
    (hfinds : ∀ check fault other, finds check fault → finds check other → fault = other)
    (hsecond : IsFirst finds second other) : fault = other := by
  rcases rank_lt_or_eq_or_gt first second with hlt | rfl | hgt
  · exact absurd hlt (hsecond.2 first fault hfirst.1)
  · exact hfinds first fault other hfirst.1 hsecond.1
  · exact absurd hgt (hfirst.2 second other hsecond.1)

end Check

/-! ### Variants -/

namespace Variant

/-- What a phase finds wrong with a variant. -/
inductive Breaks (host : Host) (variant : Variant) : Phase → Fault → Prop
  | fields {tree : TokenTree} (hfields : variant.fields = some tree) :
      Breaks host variant .fields (.invalid ⟨.notAUnitVariant, tree.span⟩)
  | initializer {panic : Panic} (hinitializer : host.initializer variant = .error panic) :
      Breaks host variant .initializer (.panicked panic)
  | values {problem : Problem}
      (hvalues : host.variantValues variant = .ok (some (.error problem))) :
      Breaks host variant .values (.invalid problem)
  | valuesPanic {panic : Panic} (hvalues : host.variantValues variant = .error panic) :
      Breaks host variant .values (.panicked panic)

variable {host : Host} {variant : Variant}

/-- A phase finds at most one fault of a variant. -/
theorem Breaks.fault_unique {phase : Phase} {fault other : Fault}
    (hfault : variant.Breaks host phase fault) (hother : variant.Breaks host phase other) :
    fault = other := by
  cases hfault <;> cases hother <;> simp_all

end Variant

namespace Resolution

/-- A step fails in the first phase that finds something. -/
theorem breaks_of_step {host : Host} {variant : Variant} {preset : Int64} {fault : Fault}
    (h : step host variant preset = .fault fault) :
    ∃ phase, variant.Breaks host phase fault ∧
      ∀ earlier other, variant.Breaks host earlier other → phase.rank ≤ earlier.rank := by
  unfold step at h
  -- The step looks at the fields, the initializer and the values in this order, and so do the
  -- phases.
  cases hfields : variant.fields with
  | some tree =>
    simp only [hfields, Step.fault.injEq] at h
    subst h
    exact ⟨.fields, .fields hfields, fun earlier other _ => Nat.zero_le _⟩
  | none =>
    cases hinitializer : host.initializer variant with
    | error panic =>
      simp only [hfields, hinitializer, Step.fault.injEq] at h
      subst h
      refine ⟨.initializer, .initializer hinitializer, fun earlier other hearlier => ?_⟩
      cases hearlier <;> simp_all [Phase.rank]
    | ok given =>
      have hlast : ∀ earlier other, variant.Breaks host earlier other →
          Phase.values.rank ≤ earlier.rank := by
        intro earlier other hearlier
        cases hearlier <;> simp_all
      simp only [hfields, hinitializer] at h
      split at h <;> simp only [Step.fault.injEq, reduceCtorEq] at h
      · subst h
        exact ⟨.values, .valuesPanic ‹_›, hlast⟩
      · subst h
        exact ⟨.values, .values ‹_›, hlast⟩

/-- A step that does not fail has nothing to find in any phase. -/
theorem step_ne_fault {host : Host} {variant : Variant} (preset : Int64)
    (h : ∀ fault, step host variant preset ≠ .fault fault) :
    ∀ phase fault, ¬ variant.Breaks host phase fault := by
  intro phase fault hbreaks
  unfold step at h
  cases hbreaks <;> grind

/-- A search without a fault has nothing to find in any variant. -/
theorem not_breaks_of_ofVariants {host : Host} {variants : List Variant} {preset : Int64}
    (h : (ofVariants host variants preset).fault = none) :
    ∀ variant ∈ variants, ∀ phase fault, ¬ variant.Breaks host phase fault := by
  induction variants generalizing preset with
  | nil => simp
  | cons variant rest ih =>
    simp only [ofVariants] at h
    cases hstep : step host variant preset with
    | fault fault => simp [hstep, stopped] at h
    | untagged ordinal =>
      simp only [hstep] at h
      exact List.forall_mem_cons.mpr ⟨step_ne_fault preset (by simp [hstep]), ih h⟩
    | member member =>
      simp only [hstep, cons] at h
      exact List.forall_mem_cons.mpr ⟨step_ne_fault preset (by simp [hstep]), ih h⟩

/-- A search stops at the first variant that something is wrong with. -/
theorem step_of_ofVariants {host : Host} {variants : List Variant} {preset : Int64} {fault : Fault}
    (h : (ofVariants host variants preset).fault = some fault) :
    ∃ front variant back ordinal, variants = front ++ variant :: back ∧
      (∀ earlier ∈ front, ∀ phase other, ¬ earlier.Breaks host phase other) ∧
      step host variant ordinal = .fault fault := by
  induction variants generalizing preset with
  | nil => simp [ofVariants] at h
  | cons first rest ih =>
    -- The fault of the rest, with the first variant in front.
    have hrest {ordinal : Int64} (hstep : ∀ other, step host first preset ≠ .fault other)
        (hfault : (ofVariants host rest ordinal).fault = some fault) :
        ∃ front variant back ordinal, first :: rest = front ++ variant :: back ∧
          (∀ earlier ∈ front, ∀ phase other, ¬ earlier.Breaks host phase other) ∧
          step host variant ordinal = .fault fault := by
      obtain ⟨front, variant, back, ordinal, rfl, hfront, hvariant⟩ := ih hfault
      exact ⟨first :: front, variant, back, ordinal, rfl,
        List.forall_mem_cons.mpr ⟨step_ne_fault preset hstep, hfront⟩, hvariant⟩
    simp only [ofVariants] at h
    cases hstep : step host first preset with
    | fault other =>
      simp only [hstep, stopped, Option.some.injEq] at h
      exact ⟨[], first, rest, preset, rfl, by simp, h ▸ hstep⟩
    | untagged ordinal =>
      simp only [hstep] at h
      exact hrest (by simp [hstep]) h
    | member member =>
      simp only [hstep, cons] at h
      exact hrest (by simp [hstep]) h

end Resolution

/-! ### Attributes -/

namespace Attribute

variable {α : Type}

/-- An attribute that is a list of what a reader accepts. -/
def HasArguments (attr : Attribute) (read : Scope → TokenStream → Except Problem α)
    (arguments : α) : Prop :=
  ∃ delimiter content span, attr.body = .list delimiter content span ∧
    read ⟨span.last, .invisible⟩ content = .ok arguments

/-- What is wrong with an attribute that ought to be such a list. -/
inductive LacksArguments (attr : Attribute) (read : Scope → TokenStream → Except Problem α) :
    Problem → Prop
  | bare (hbody : attr.body = .bare) :
      LacksArguments attr read
        ⟨.argumentsMissing attr.path.text, attr.path.first.span.through attr.path.last.span⟩
  | assigned {equals : Span} {value : TokenStream} (hbody : attr.body = .assigned equals value) :
      LacksArguments attr read ⟨.parenthesesMissing attr.path.text, equals⟩
  | unreadable {delimiter : Delimiter} {content : TokenStream} {span : Span} {problem : Problem}
      (hbody : attr.body = .list delimiter content span)
      (hread : read ⟨span.last, .invisible⟩ content = .error problem) :
      LacksArguments attr read problem

variable {attr : Attribute} {read : Scope → TokenStream → Except Problem α}

/-- Arguments are read from an attribute if it is a list that the reader accepts. -/
theorem attributeArguments_eq_ok_iff {arguments : α} :
    Host.attributeArguments attr read = .ok arguments ↔ attr.HasArguments read arguments := by
  unfold Host.attributeArguments HasArguments
  cases attr.body <;> simp [and_assoc]

/-- Otherwise the problem says what is wrong with the list. -/
theorem attributeArguments_eq_error_iff {problem : Problem} :
    Host.attributeArguments attr read = .error problem ↔ attr.LacksArguments read problem := by
  constructor
  · intro h
    unfold Host.attributeArguments at h
    split at h
    · exact Except.error.inj h ▸ .bare ‹_›
    · exact Except.error.inj h ▸ .assigned ‹_›
    · exact .unreadable ‹_› h
  · rintro (hbody | hbody | ⟨hbody, hread⟩) <;> simp_all [Host.attributeArguments]

/-- An attribute is such a list, or something is wrong with it. -/
theorem hasArguments_or_lacks (attr : Attribute) (read : Scope → TokenStream → Except Problem α) :
    (∃ arguments, attr.HasArguments read arguments) ∨
      ∃ problem, attr.LacksArguments read problem := by
  simp only [← attributeArguments_eq_ok_iff, ← attributeArguments_eq_error_iff]
  cases Host.attributeArguments attr read <;> simp

/-- An attribute has its arguments once. -/
theorem HasArguments.unique {arguments others : α} (h : attr.HasArguments read arguments)
    (hothers : attr.HasArguments read others) : arguments = others := by
  rw [← attributeArguments_eq_ok_iff] at h hothers
  exact Except.ok.inj (h.symm.trans hothers)

/-- One thing is wrong with an attribute. -/
theorem LacksArguments.unique {problem other : Problem} (h : attr.LacksArguments read problem)
    (hother : attr.LacksArguments read other) : problem = other := by
  rw [← attributeArguments_eq_error_iff] at h hother
  exact Except.error.inj (h.symm.trans hother)

/-- Where something is wrong with an attribute there are no arguments. -/
theorem LacksArguments.not_has {problem : Problem} {arguments : α}
    (h : attr.LacksArguments read problem) : ¬ attr.HasArguments read arguments := by
  rw [← attributeArguments_eq_error_iff] at h
  simp [← attributeArguments_eq_ok_iff, h]

/-- A representation attribute that names a primitive integer type. -/
def NamesPrimitive (attr : Attribute) : Prop :=
  attr.path.isWord "repr" = true ∧ ∃ hints, attr.HasArguments Grammar.contents hints ∧
    ∃ hint ∈ hints, (Declaration.primitive? hint).isSome

end Attribute

/-- What is wrong with the representation attribute at a position, if no attribute in front of it
names a primitive. -/
def EnumItem.RepresentationBreaks (item : EnumItem) (index : Nat) (problem : Problem) : Prop :=
  ∃ attr, item.attributes[index]? = some attr ∧ attr.path.isWord "repr" = true ∧
    attr.LacksArguments Grammar.contents problem ∧
    ∀ earlier ∈ item.attributes.take index, ¬ earlier.NamesPrimitive

/-! ### Representations -/

namespace Declaration

/-- An attribute that leaves the representation to those behind it. -/
def PassesOver (attr : Attribute) : Prop :=
  attr.path.isWord "repr" = true →
    ∃ hints, attr.HasArguments Grammar.contents hints ∧ hints.findSome? primitive? = none

/-- An attribute that is passed over names no primitive type. -/
theorem PassesOver.not_namesPrimitive {attr : Attribute} (h : PassesOver attr) :
    ¬ attr.NamesPrimitive := by
  rintro ⟨hword, hints, hhints, hint, hmem, hprimitive⟩
  obtain ⟨others, hothers, hnone⟩ := h hword
  obtain rfl := hhints.unique hothers
  simp [List.findSome?_eq_none_iff.mp hnone hint hmem] at hprimitive

/-- The representation of some attributes is that of the ones behind the first one, unless this one
names a primitive or cannot be read. -/
theorem representation_cons (attr : Attribute) (rest : List Attribute) :
    (PassesOver attr ∧ representation (attr :: rest) = representation rest) ∨
      (∃ type, attr.NamesPrimitive ∧ representation (attr :: rest) = .ok type) ∨
      ∃ problem, attr.path.isWord "repr" = true ∧ attr.LacksArguments Grammar.contents problem ∧
        representation (attr :: rest) = .error problem := by
  by_cases hword : attr.path.isWord "repr" = true
  · cases hhints : Host.attributeArguments attr Grammar.contents with
    | error problem =>
      exact .inr (.inr ⟨problem, hword, Attribute.attributeArguments_eq_error_iff.mp hhints,
        by simp [representation, hword, hhints]⟩)
    | ok hints =>
      have hhas := Attribute.attributeArguments_eq_ok_iff.mp hhints
      cases htype : hints.findSome? primitive? with
      | some type =>
        obtain ⟨hint, hmem, hprimitive⟩ := List.exists_of_findSome?_eq_some htype
        exact .inr (.inl ⟨type, ⟨hword, hints, hhas, hint, hmem, by simp [hprimitive]⟩,
          by simp [representation, hword, hhints, htype]⟩)
      | none =>
        exact .inl ⟨fun _ => ⟨hints, hhas, htype⟩, by simp [representation, hword, hhints, htype]⟩
  · exact .inl ⟨fun h => absurd h hword, by simp [representation, hword]⟩

/-- Attributes with a representation have nothing wrong up to the one that names it. -/
theorem not_lacks_of_representation {attributes : List Attribute} {type : IntegerType}
    (h : representation attributes = .ok type) {index : Nat} {attr : Attribute}
    (hattr : attributes[index]? = some attr) (hword : attr.path.isWord "repr" = true)
    (hfront : ∀ earlier ∈ attributes.take index, ¬ earlier.NamesPrimitive) (problem : Problem) :
    ¬ attr.LacksArguments Grammar.contents problem := by
  intro hproblem
  induction attributes generalizing index with
  | nil => simp at hattr
  | cons first rest ih =>
    cases index with
    | zero =>
      obtain rfl : first = attr := by simpa using hattr
      simp [representation, hword, Attribute.attributeArguments_eq_error_iff.mpr hproblem] at h
    | succ index =>
      simp only [List.take_succ_cons, List.forall_mem_cons] at hfront
      obtain ⟨_, hrest⟩ | ⟨_, hnames, _⟩ | ⟨_, _, _, herror⟩ := representation_cons first rest
      · exact ih (hrest ▸ h) (by simpa using hattr) hfront.2
      · exact hfront.1 hnames
      · simp [herror] at h

/-- What is wrong with a representation is wrong with the first attribute that cannot be read. -/
theorem lacks_of_representation {attributes : List Attribute} {problem : Problem}
    (h : representation attributes = .error problem) :
    ∃ front attr back, attributes = front ++ attr :: back ∧
      (∀ earlier ∈ front, PassesOver earlier) ∧ attr.path.isWord "repr" = true ∧
      attr.LacksArguments Grammar.contents problem := by
  induction attributes with
  | nil => simp [representation] at h
  | cons first rest ih =>
    obtain ⟨hpass, hrest⟩ | ⟨_, _, hok⟩ | ⟨_, hword, hproblem, herror⟩ :=
      representation_cons first rest
    · obtain ⟨front, attr, back, rfl, hfront, hattr⟩ := ih (hrest ▸ h)
      exact ⟨first :: front, attr, back, rfl, List.forall_mem_cons.mpr ⟨hpass, hfront⟩, hattr⟩
    · simp [hok] at h
    · obtain rfl : _ = problem := by simpa [herror] using h
      exact ⟨[], first, rest, rfl, by simp, hword, hproblem⟩

end Declaration

/-! ### Enumerations -/

namespace EnumItem

/-- What a check finds wrong with an enumeration. -/
inductive Breaks (host : Host) (item : EnumItem) : Check → Fault → Prop
  | options {problem : Problem}
      (hoptions : host.wrapperOptions item = .ok (some (.error problem))) :
      Breaks host item .options (.invalid problem)
  | variants (hvariants : item.variants = []) :
      Breaks host item .variants (.invalid ⟨.noVariants, item.braces⟩)
  | representation {index : Nat} {problem : Problem}
      (hindex : item.RepresentationBreaks index problem) :
      Breaks host item (.representation index) (.invalid problem)
  | variant {index : Nat} {variant : Variant} {phase : Phase} {fault : Fault}
      (hvariant : item.variants[index]? = some variant) (hfault : variant.Breaks host phase fault) :
      Breaks host item (.variant index phase) fault

variable {host : Host} {item : EnumItem}

/-- A check finds at most one fault of an enumeration. -/
theorem Breaks.fault_unique {check : Check} {fault other : Fault}
    (hfault : item.Breaks host check fault) (hother : item.Breaks host check other) :
    fault = other := by
  cases hfault with
  | options hoptions =>
    cases hother with
    | options hagain => simpa [hoptions] using hagain
  | variants _ =>
    cases hother with
    | variants _ => rfl
  | representation hindex =>
    cases hother with
    | representation hagain =>
      obtain ⟨attr, hattr, _, hproblem, _⟩ := hindex
      obtain ⟨again, hsame, _, hanother, _⟩ := hagain
      obtain rfl : attr = again := by simpa [hattr] using hsame
      rw [hproblem.unique hanother]
  | variant hvariant hfault =>
    cases hother with
    | variant hsame hagain =>
      obtain rfl := Option.some.inj (hvariant.symm.trans hsame)
      exact hfault.fault_unique hagain

end EnumItem

namespace Found

variable {host : Host} {found : Found}

/-- An enumeration with a declaration has nothing wrong. -/
theorem not_breaks_of_resolve
    (hfound : host.wrapperOptions found.item = .ok (some found.options)) {declaration : Declaration}
    (h : (found.resolve host).2 = .ok declaration) (check : Check) (fault : Fault) :
    ¬ found.item.Breaks host check fault := by
  unfold Found.resolve Declaration.resolve at h
  cases hoptions : found.options with
  | error problem => simp [hoptions] at h
  | ok options =>
    by_cases hempty : found.item.variants = []
    · simp [hoptions, hempty] at h
    · cases hrepr : Declaration.representation found.item.attributes with
      | error problem => simp [hoptions, hempty, hrepr] at h
      | ok repr =>
        cases hfault : (Resolution.ofVariants host found.item.variants 0).fault with
        | some other => simp [hoptions, hempty, hrepr, hfault] at h
        | none =>
          intro hbreaks
          cases hbreaks with
          | options herror => simp [hfound, hoptions] at herror
          | variants hvariants => exact hempty hvariants
          | representation hindex =>
            obtain ⟨attr, hattr, hword, hproblem, hfront⟩ := hindex
            exact Declaration.not_lacks_of_representation hrepr hattr hword hfront _ hproblem
          | variant hvariant hbreaks =>
            exact Resolution.not_breaks_of_ofVariants hfault _ (List.mem_of_getElem? hvariant) _ _
              hbreaks

/-- A problem with the options is found first. -/
theorem isFirst_options {problem : Problem}
    (hoptions : host.wrapperOptions found.item = .ok (some (.error problem))) :
    Check.IsFirst (found.item.Breaks host) .options (.invalid problem) :=
  ⟨.options hoptions, fun earlier _ _ => earlier.not_rank_lt_options⟩

section

variable {options : WrapperOptions}
  (hoptions : host.wrapperOptions found.item = .ok (some (.ok options)))
include hoptions

/-- Behind options without a problem, missing variants are found first. -/
theorem isFirst_variants (hvariants : found.item.variants = []) :
    Check.IsFirst (found.item.Breaks host) .variants
      (.invalid ⟨.noVariants, found.item.braces⟩) := by
  refine ⟨.variants hvariants, fun earlier other hearlier hlt => ?_⟩
  obtain rfl := Check.rank_lt_variants_iff.mp hlt
  cases hearlier with
  | options herror => simp [hoptions] at herror

/-- An error of the representation is found at the first attribute that cannot be read. -/
theorem isFirst_representation {problem : Problem} (hvariants : found.item.variants ≠ [])
    (hrepr : Declaration.representation found.item.attributes = .error problem) :
    ∃ index, Check.IsFirst (found.item.Breaks host) (.representation index) (.invalid problem) := by
  obtain ⟨front, attr, back, hsplit, hfront, hword, hproblem⟩ :=
    Declaration.lacks_of_representation hrepr
  have hunnamed :
      ∀ earlier ∈ found.item.attributes.take front.length, ¬ earlier.NamesPrimitive := by
    intro earlier hearlier
    exact (hfront earlier (by simpa [hsplit] using hearlier)).not_namesPrimitive
  refine ⟨front.length, .representation ⟨attr, by simp [hsplit], hword, hproblem, hunnamed⟩,
    fun earlier other hearlier hlt => ?_⟩
  obtain rfl | rfl | ⟨index, hindex, rfl⟩ := Check.rank_lt_representation_iff.mp hlt
  · cases hearlier with
    | options herror => simp [hoptions] at herror
  · cases hearlier with
    | variants hempty => exact hvariants hempty
  · cases hearlier with
    | representation hbreaks =>
      obtain ⟨before, hbefore, hbeforeWord, hlacks, _⟩ := hbreaks
      rw [hsplit, List.getElem?_append_left hindex] at hbefore
      obtain ⟨hints, hhints, _⟩ := hfront before (List.mem_of_getElem? hbefore) hbeforeWord
      exact hlacks.not_has hhints

/-- A fault of the search is found at the first variant that something is wrong with. -/
theorem isFirst_variant {repr : IntegerType} {fault : Fault} (hvariants : found.item.variants ≠ [])
    (hrepr : Declaration.representation found.item.attributes = .ok repr)
    (hfault : (Resolution.ofVariants host found.item.variants 0).fault = some fault) :
    ∃ index phase, Check.IsFirst (found.item.Breaks host) (.variant index phase) fault := by
  obtain ⟨front, variant, back, ordinal, hsplit, hfront, hstep⟩ :=
    Resolution.step_of_ofVariants hfault
  obtain ⟨phase, hbreaks, hphase⟩ := Resolution.breaks_of_step hstep
  have hvariant : found.item.variants[front.length]? = some variant := by simp [hsplit]
  refine ⟨front.length, phase, .variant hvariant hbreaks, fun earlier other hearlier hlt => ?_⟩
  obtain rfl | rfl | ⟨index, rfl⟩ | ⟨index, before, rfl, hbefore⟩ :=
    Check.rank_lt_variant_iff.mp hlt
  · cases hearlier with
    | options herror => simp [hoptions] at herror
  · cases hearlier with
    | variants hempty => exact hvariants hempty
  · cases hearlier with
    | representation hindex =>
      obtain ⟨attr, hattr, hword, hproblem, hunnamed⟩ := hindex
      exact Declaration.not_lacks_of_representation hrepr hattr hword hunnamed _ hproblem
  · cases hearlier with
    | @variant _ other _ _ hother hagain =>
      rcases hbefore with hindex | ⟨rfl, hrank⟩
      · rw [hsplit, List.getElem?_append_left hindex] at hother
        exact hfront other (List.mem_of_getElem? hother) _ _ hagain
      · obtain rfl := Option.some.inj (hvariant.symm.trans hother)
        exact Nat.not_lt.mpr (hphase _ _ hagain) hrank

end

/-- An enumeration without a declaration has the fault of the first check that finds any. -/
theorem isFirst_of_resolve (hfound : host.wrapperOptions found.item = .ok (some found.options))
    {fault : Fault} (h : (found.resolve host).2 = .error fault) :
    ∃ check, Check.IsFirst (found.item.Breaks host) check fault := by
  unfold Found.resolve Declaration.resolve at h
  cases hoptions : found.options with
  | error problem =>
    rw [hoptions] at hfound
    obtain rfl : .invalid problem = fault := by simpa [hoptions] using h
    exact ⟨_, isFirst_options hfound⟩
  | ok options =>
    rw [hoptions] at hfound
    by_cases hvariants : found.item.variants = []
    · obtain rfl : .invalid ⟨.noVariants, found.item.braces⟩ = fault := by
        simpa [hoptions, hvariants] using h
      exact ⟨_, isFirst_variants hfound hvariants⟩
    · cases hrepr : Declaration.representation found.item.attributes with
      | error problem =>
        obtain rfl : .invalid problem = fault := by simpa [hoptions, hvariants, hrepr] using h
        obtain ⟨index, hfirst⟩ := isFirst_representation hfound hvariants hrepr
        exact ⟨_, hfirst⟩
      | ok repr =>
        cases hfault : (Resolution.ofVariants host found.item.variants 0).fault with
        | none => simp [hoptions, hvariants, hrepr, hfault] at h
        | some other =>
          obtain rfl : other = fault := by simpa [hoptions, hvariants, hrepr, hfault] using h
          obtain ⟨index, phase, hfirst⟩ := isFirst_variant hfound hvariants hrepr hfault
          exact ⟨_, hfirst⟩

/-- An enumeration has a unit if no check finds anything wrong with it. -/
theorem outcome_ok_iff (hfound : host.wrapperOptions found.item = .ok (some found.options)) :
    (∃ unit, found.outcome host = .ok unit) ↔
      ∀ check fault, ¬ found.item.Breaks host check fault := by
  unfold outcome
  cases hresolve : (found.resolve host).2 with
  | ok declaration => exact ⟨fun _ => not_breaks_of_resolve hfound hresolve, fun _ => ⟨_, rfl⟩⟩
  | error fault =>
    obtain ⟨check, hfirst⟩ := isFirst_of_resolve hfound hresolve
    exact ⟨by simp, fun hnone => absurd hfirst.1 (hnone check fault)⟩

/-- An enumeration without a unit has the fault of the first check that finds any. -/
theorem outcome_error_iff (hfound : host.wrapperOptions found.item = .ok (some found.options))
    {diagnostic : Diagnostic} :
    found.outcome host = .error diagnostic ↔
      ∃ check fault, Check.IsFirst (found.item.Breaks host) check fault ∧
        diagnostic = ⟨found.fullName, fault⟩ := by
  unfold outcome
  cases hresolve : (found.resolve host).2 with
  | ok declaration =>
    refine ⟨by simp, ?_⟩
    rintro ⟨check, fault, hfirst, _⟩
    exact absurd hfirst.1 (not_breaks_of_resolve hfound hresolve check fault)
  | error fault =>
    obtain ⟨check, hfirst⟩ := isFirst_of_resolve hfound hresolve
    constructor
    · intro h
      exact ⟨check, fault, hfirst, (Except.error.inj h).symm⟩
    · rintro ⟨again, other, hagain, rfl⟩
      rw [hfirst.unique (fun _ _ _ hfault hother => hfault.fault_unique hother) hagain]

end Found

end ValuedEnum
