import ValuedEnum.Proofs.Members
import ValuedEnum.Proofs.Placement
import ValuedEnum.Proofs.Slots
import ValuedEnum.Proofs.Telling

/-!
# The log tells what a run does

A run logs its schema, then every enumeration that it finds, and then what becomes of each of them.
The block of an enumeration has an event for every tagged variant that is resolved, and one for the
outcome. This file says which variants are resolved without running the search, and proves that the
blocks of all enumerations follow one another in their order, whatever fails or panics. It is a run
that tells its events on the way which has this log.
-/

namespace ValuedEnum

/-! ### Variants that are resolved -/

/-- Whether nothing is wrong with a variant. -/
def Variant.isSound (host : Host) (variant : Variant) : Bool :=
  variant.fields.isNone && (host.initializer variant).isOk &&
    match host.variantValues variant with
    | .ok none => true
    | .ok (some values) => values.isOk
    | .error _ => false

namespace Resolution

variable {host : Host}

/-- A step fails exactly at a variant that something is wrong with. -/
theorem exists_step_eq_fault_iff {variant : Variant} {preset : Int64} :
    (∃ fault, step host variant preset = .fault fault) ↔ variant.isSound host = false := by
  unfold step Variant.isSound
  cases variant.fields with
  | some fields => simp
  | none =>
    cases host.initializer variant with
    | error panic => simp [Except.isOk, Except.toBool]
    | ok given =>
      cases host.variantValues variant with
      | error panic => simp
      | ok answer =>
        cases answer with
        | none => simp [Except.isOk, Except.toBool]
        | some values => cases values <;> simp [Except.isOk, Except.toBool]

/-- A search finds what it would find among the variants in front of the first one that something is
wrong with. -/
theorem ofVariants_takeWhile (variants : List Variant) (preset : Int64) :
    ofVariants host (variants.takeWhile (Variant.isSound host)) preset =
      ⟨(ofVariants host variants preset).members, none⟩ := by
  induction variants generalizing preset with
  | nil => rfl
  | cons variant rest ih =>
    cases hsound : variant.isSound host with
    | false =>
      obtain ⟨fault, hstep⟩ := exists_step_eq_fault_iff.mpr hsound
      rw [List.takeWhile_cons_of_neg (by simp [hsound]), ofVariants, ofVariants, hstep]
      rfl
    | true =>
      rw [List.takeWhile_cons_of_pos hsound, ofVariants, ofVariants]
      cases hstep : step host variant preset with
      | fault fault => simp [exists_step_eq_fault_iff.mp ⟨fault, hstep⟩] at hsound
      | untagged ordinal => exact ih (ordinal + 1)
      | member member =>
        simp only [ih (member.ordinal + 1)]
        rfl

/-- The members that a search finds are the tagged variants in front of the first one that something
is wrong with. -/
theorem made_of_ofVariants (variants : List Variant) :
    List.Forall₂ (Member.IsMade host (variants.takeWhile (Variant.isSound host)))
      (ofVariants host variants 0).members
      (host.tagged (variants.takeWhile (Variant.isSound host))) :=
  ((finds_of_ofVariants (ofVariants_takeWhile variants 0)).made (List.nil_append _).symm
    Host.presetAt_zero).1

end Resolution

namespace Found

/-- The variants of an enumeration that are resolved: those in front of the first one that something
is wrong with, and none of them if something is wrong with the options or the representation. -/
def reached (host : Host) (found : Found) : List Variant :=
  if found.options.isOk && (Declaration.representation found.item.attributes).isOk then
    found.item.variants.takeWhile (Variant.isSound host)
  else []

variable {host : Host}

/-- The members of an enumeration are the tagged variants among those that are resolved, whether
there is a declaration or not. -/
theorem made_of_resolve (host : Host) (found : Found) :
    List.Forall₂ (Member.IsMade host (found.reached host)) (found.resolve host).1
      (host.tagged (found.reached host)) := by
  obtain ⟨fullName, item, options⟩ := found
  unfold resolve reached Declaration.resolve
  cases options with
  | error problem => simp [Except.isOk, Except.toBool, Host.tagged]
  | ok options =>
    by_cases hempty : item.variants = []
    · simp [hempty, Host.tagged]
    · cases Declaration.representation item.attributes with
      | error problem => simp [hempty, Except.isOk, Except.toBool, Host.tagged]
      | ok repr =>
        simpa [hempty, Except.isOk, Except.toBool] using
          Resolution.made_of_ofVariants item.variants

/-- A declaration has the members that were found on the way. -/
theorem members_eq_of_resolve {found : Found} {declaration : Declaration}
    (h : (found.resolve host).2 = .ok declaration) :
    declaration.members = (found.resolve host).1 := by
  unfold resolve Declaration.resolve at h ⊢
  grind [Declaration.ofResolution]

end Found

/-! ### Events -/

namespace Event

/-- The event that tells an outcome, behind the events of some members. -/
inductive Closes (members : List Member) : Outcome → Event → Prop
  | generating {unit : SourceUnit} {declaration : Declaration} {visibility : String}
      {unified : Bool}
      (hfields : (generatingWrapper declaration).fields =
        [("unit", unit.name), ("visibility", visibility), ("members", toString members.length),
          ("unified", truth unified)])
      (hunified : unified = true ↔
        ∀ first ∈ members, ∀ second ∈ members, first.types = second.types) :
      Closes members (.ok unit) (.generatingWrapper declaration)
  | invalid {declaration : String} {problem : Problem} :
      Closes members (.error ⟨declaration, .invalid problem⟩)
        (.invalidDeclaration declaration problem)
  | panicked {declaration : String} {panic : Panic} :
      Closes members (.error ⟨declaration, .panicked panic⟩) (.generatorPanicked declaration panic)

end Event

namespace Found

/-- The block of an enumeration: an event for each tagged variant that is resolved, in their order,
and one for the outcome. -/
def IsTold (host : Host) (found : Found) (block : List Event) : Prop :=
  ∃ members closing, block = members.map Event.resolvedMember ++ [closing] ∧
    List.Forall₂ (Member.IsMade host (found.reached host)) members
      (host.tagged (found.reached host)) ∧
    closing.Closes members (found.outcome host)

/-- The last event of a block tells the outcome. -/
theorem closes_closing (host : Host) (found : Found) :
    (found.closing (found.resolve host).2).Closes (found.resolve host).1 (found.outcome host) := by
  unfold outcome
  cases hresolve : (found.resolve host).2 with
  | ok declaration =>
    have hmembers := members_eq_of_resolve hresolve
    have htypes : declaration.types = commonTypes? declaration.members :=
      Declaration.types_of_resolve hresolve
    have hunified : declaration.types.isSome = true ↔ ∀ first ∈ (found.resolve host).1,
        ∀ second ∈ (found.resolve host).1, first.types = second.types := by
      rw [htypes, hmembers]
      exact isSome_commonTypes?_iff
    have hfields : (Event.generatingWrapper declaration).fields =
        [("unit", (found.unit host.schema declaration).name),
          ("visibility", declaration.visibility.text),
          ("members", toString (found.resolve host).1.length),
          ("unified", Event.truth declaration.types.isSome)] := by
      rw [← hmembers]
      rfl
    exact .generating hfields hunified
  | error fault =>
    cases fault with
    | invalid problem => exact .invalid
    | panicked panic => exact .panicked

/-- The events of an enumeration are its block. -/
theorem isTold_events (host : Host) (found : Found) : found.IsTold host (found.events host) :=
  ⟨_, _, rfl, found.made_of_resolve host, found.closes_closing host⟩

end Found

namespace Host

/-- If a host panics about the options of no enumeration, then a run logs the schema, the annotated
enumerations in their order, and the block of each of them in the same order. The log is what a run
appends that tells each event when it takes the step. As for all generations, values have one of the
types of `ValueType`, and a `Host` keeps no state. -/
theorem events_of_generate {host : Host} {file : SourceFile}
    (hhost : ∀ entry ∈ Item.placedAll [] file,
      ∃ answer, host.wrapperOptions entry.item = .ok answer) :
    ∃ generation blocks, host.generate file = .ok generation ∧
      (host.tell file).Logs (.ok generation.outcomes) generation.events ∧
      generation.events = .registeredSchema host.schema ::
        ((Item.placedAll [] file).filterMap (Placed.found? host)).map
          (fun found => .foundEnumeration found.fullName) ++ blocks.flatten ∧
      generation.outcomes =
        ((Item.placedAll [] file).filterMap (Placed.found? host)).map (Found.outcome host) ∧
      List.Forall₂ (Found.IsTold host) ((Item.placedAll [] file).filterMap (Placed.found? host))
        blocks := by
  have hfound := found_eq_placed hhost
  generalize (Item.placedAll [] file).filterMap (Placed.found? host) = all at hfound
  obtain ⟨generation, hgeneration⟩ : ∃ generation, host.generate file = .ok generation :=
    ⟨_, by rw [generate, hfound]⟩
  -- The log of the run is that of the steps; it is cut into one block for each enumeration.
  have hlogs : (host.tell file).Logs (.ok generation.outcomes) generation.events := by
    obtain ⟨events, hlogs, hevents⟩ := host.logs_tell file
    rw [hevents generation hgeneration, hgeneration] at hlogs
    exact hlogs
  refine ⟨generation, all.map (Found.events host), hgeneration, hlogs, ?_⟩
  rw [generate, hfound] at hgeneration
  obtain rfl := Except.ok.inj hgeneration
  refine ⟨?_, rfl, ?_⟩
  · rw [← List.flatMap_def]
  · rw [List.forall₂_map_right_iff, List.forall₂_same]
    exact fun found _ => found.isTold_events host

/-- Four enumerations: one with values of two types, one in a module with a variant that the host
panics about, one that is not annotated, and one with a field. -/
def toldFile : SourceFile :=
  [.enumeration (.ofVariants "A" [] [.ofTexts "B" none none, .ofTexts "C" none none]),
    .module (.ofText "m")
      [.enumeration (.ofVariants "D" [] [.ofTexts "E" none none, .ofTexts "F" none none])],
    .enumeration (.ofVariants "G" [] [.ofTexts "B" none none]),
    .enumeration (.ofVariants "H" [] [.ofTexts "I" none none,
      { Variant.ofTexts "J" none none with
        fields := some (.group .parenthesis (TokenStream.word "u8") .nowhere) }])]

/-- A host that panics about one of the variants. -/
def tellingHost : Host :=
  Script.host
    { schema := .standard, ignored := ["G"], unknown := [], suffix := "Values",
      convertOrdinal := true, throwOnCastFailure := false, panicText := [], panicNamed := ["F"],
      panicSilent := [], rejected := [],
      values := [("B", ["1"]), ("C", ["'c'", "2"]), ("E", []), ("I", ["3"])],
      initializers := none }

/-- A member is told even if its enumeration has no wrapper in the end. -/
theorem events_of_toldFile :
    (∀ entry ∈ Item.placedAll [] toldFile,
        ∃ answer, tellingHost.wrapperOptions entry.item = .ok answer) ∧
      ∃ generation, tellingHost.generate toldFile = .ok generation ∧
        generation.events.map Event.message =
          ["registered schema", "found annotated enumeration", "found annotated enumeration",
            "found annotated enumeration", "resolved member", "resolved member",
            "generating wrapper", "resolved member", "unsupported variant F", "resolved member",
            "invalid declaration"] ∧
        generation.events[6]?.map Event.fields =
          some [("unit", "AValues.rs"), ("visibility", ""), ("members", "2"),
            ("unified", "false")] := by
  have hhost : ∀ entry ∈ Item.placedAll [] toldFile,
      ∃ answer, tellingHost.wrapperOptions entry.item = .ok answer := by
    intro entry hentry
    simp only [Item.placedAll, Item.placed, toldFile, List.append_nil, List.cons_append,
      List.nil_append, List.mem_cons, List.not_mem_nil, or_false] at hentry
    rcases hentry with rfl | rfl | rfl | rfl <;> exact ⟨_, rfl⟩
  obtain ⟨generation, blocks, hgeneration, _⟩ := events_of_generate hhost
  refine ⟨hhost, generation, hgeneration, ?_⟩
  cases hgeneration
  exact ⟨rfl, rfl⟩

end Host

end ValuedEnum
