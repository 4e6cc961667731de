import ValuedEnum.Generation
import ValuedEnum.Host.Scripted
import ValuedEnum.Proofs.Containment
import ValuedEnum.Proofs.FirstFault
import ValuedEnum.Proofs.Nesting
import ValuedEnum.Proofs.Slots

/-!
# Values at positions

The arms of a conversion take the values of all members at one position, which was found among the
common types. This file says what common types are without a candidate from the first member. It
follows the generation with every value taken by an index that panics where there is none, and
proves that it never does: whoever panics is the host.
-/

namespace ValuedEnum

/-! ### Common types -/

namespace Member

/-- Members with different numbers of values, or with values of different types at a position. -/
def Differs (first second : Member) : Prop :=
  first.values.length ≠ second.values.length ∨
    ∃ (index : Nat) (value other : Value), first.values[index]? = some value ∧
      second.values[index]? = some other ∧ value.type ≠ other.type

/-- Members differ if the lists of their types do. -/
theorem differs_iff {first second : Member} :
    first.Differs second ↔ first.types ≠ second.types := by
  constructor
  · rintro (hlength | ⟨index, value, other, hfirst, hsecond, htype⟩) hsame
    · exact hlength (by simpa [types] using congrArg List.length hsame)
    · have hindex : first.types[index]? = second.types[index]? := by rw [hsame]
      simp only [types, List.getElem?_map, hfirst, hsecond, Option.map_some,
        Option.some.injEq] at hindex
      exact htype hindex
  · intro hdiffer
    refine Classical.byContradiction fun hnot => hdiffer ?_
    obtain ⟨hlength, hvalues⟩ := not_or.mp hnot
    have hlength : first.types.length = second.types.length := by simpa [types] using hlength
    refine List.ext_getElem hlength fun index hfirst hsecond => ?_
    have hvalue : index < first.values.length := by simpa [types] using hfirst
    have hother : index < second.values.length := by simpa [types] using hsecond
    refine Classical.byContradiction fun htype => hvalues ?_
    refine ⟨index, first.values[index], second.values[index],
      List.getElem?_eq_getElem hvalue, List.getElem?_eq_getElem hother, ?_⟩
    simpa [types] using htype

end Member

/-- Common types are the types of every member; without members, there are none. -/
theorem commonTypes?_eq_some_iff {members : List Member} {types : List ValueType} :
    commonTypes? members = some types ↔
      (∀ member ∈ members, member.types = types) ∧ (members = [] → types = []) := by
  constructor
  · intro h
    refine ⟨types_eq_of_commonTypes? h, ?_⟩
    rintro rfl
    simpa [commonTypes?] using h.symm
  · rintro ⟨hall, hnil⟩
    cases members with
    | nil => simp [commonTypes?, hnil rfl]
    | cons first rest =>
      obtain ⟨rfl, hrest⟩ := List.forall_mem_cons.mp hall
      simpa [commonTypes?_cons] using hrest

/-- There are no common types if two members differ, and only then. -/
theorem commonTypes?_eq_none_iff {members : List Member} :
    commonTypes? members = none ↔
      ∃ first ∈ members, ∃ second ∈ members, first.Differs second := by
  have hsome := not_congr (@isSome_commonTypes?_iff members)
  rw [Bool.not_eq_true, Option.isSome_eq_false_iff, Option.isNone_iff_eq_none] at hsome
  rw [hsome]
  simp [Member.differs_iff]

/-- The order of the members does not matter. -/
theorem commonTypes?_perm {members others : List Member} (h : members.Perm others) :
    commonTypes? members = commonTypes? others := by
  have hmem (member : Member) : member ∈ members ↔ member ∈ others := h.mem_iff
  have hnil : members = [] ↔ others = [] := ⟨fun hnil => by simpa [hnil] using h,
    fun hnil => by simpa [hnil] using h⟩
  refine Option.ext fun types => ?_
  rw [commonTypes?_eq_some_iff, commonTypes?_eq_some_iff]
  simp only [hmem, hnil]

/-! ### Indexing -/

/-- The value at a position, or the panic of an index that is too large. -/
def Member.valueAt (member : Member) (index : Nat) : Except Panic Value :=
  match member.values[index]? with
  | some value => .ok value
  | none => .error (.text ("index out of bounds: the len is " ++ toString member.values.length ++
      " but the index is " ++ toString index))

/-- What a member is in a slot, with its value taken by an index. -/
def Member.entryAt (member : Member) : Slot → Except Panic Entry
  | .ordinal => .ok (.ordinal member.ordinal)
  | .enumeration => .ok (.variant member.ident)
  | .value index _ => (member.valueAt index).map Entry.value

namespace Declaration

/-- The conversion of a slot, if no index panics. -/
def conversionAt (declaration : Declaration) (slot : Slot) : Except Panic Conversion := do
  let outgoing ← declaration.members.mapM fun member =>
    (member.entryAt slot).map fun entry => ⟨.variant member.ident, false, .entry entry⟩
  let incoming ← declaration.members.mapM fun member =>
    (member.entryAt slot).map fun entry => ⟨entry, guards slot, .constant member.ident⟩
  return ⟨slot, outgoing, incoming⟩

/-- The conversions of all slots, if no index panics. -/
def conversionsAt (declaration : Declaration) : Except Panic (List Conversion) :=
  declaration.slots.mapM declaration.conversionAt

/-- The code of a wrapper with some conversions. -/
def tokensWith (declaration : Declaration) (conversions : List Conversion) : TokenStream :=
  (declaration.wrapperType :: declaration.wrapperBody :: declaration.defaultItems ++
    declaration.ordinalsType :: declaration.ordinalsBody :: declaration.equalityItems ++
    declaration.cloneItem :: declaration.debugItem ::
    conversions.flatMap declaration.conversionItems ++ declaration.displayItems).flatMap
      CodeItem.tokens

/-- The code of the wrapper, if no index panics. -/
def tokensAt (declaration : Declaration) : Except Panic TokenStream :=
  declaration.conversionsAt.map declaration.tokensWith

end Declaration

/-- What becomes of an enumeration if an index that panics makes a diagnostic of it. -/
def Found.outcomeAt (host : Host) (found : Found) : Outcome :=
  match (found.resolve host).2 with
  | .error fault => .error ⟨found.fullName, fault⟩
  | .ok declaration =>
    match declaration.tokensAt with
    | .error panic => .error ⟨found.fullName, .panicked panic⟩
    | .ok tokens =>
      .ok ⟨declaration.unitName, (host.schema.strip found.item).tokens ++ tokens⟩

/-- A run that panics about no element of a list keeps the results of all of them. -/
theorem mapM_eq_ok_filterMap {α β ε : Type} {run : α → Except ε β} {result? : α → Option β}
    {all : List α} (h : ∀ item ∈ all, ∃ result, run item = .ok result ∧ result? item = some result) :
    all.mapM run = .ok (all.filterMap result?) := by
  induction all with
  | nil => rfl
  | cons item rest ih =>
    obtain ⟨⟨result, hrun, hresult⟩, hrest⟩ := List.forall_mem_cons.mp h
    rw [List.mapM_cons, hrun, ih hrest, List.filterMap_cons, hresult]
    rfl

/-- Where a member has an entry no index panics. -/
theorem Member.entryAt_eq_ok {member : Member} {slot : Slot} {entry : Entry}
    (h : member.entry? slot = some entry) : member.entryAt slot = .ok entry := by
  cases slot with
  | ordinal => exact congrArg Except.ok (Option.some.inj h)
  | enumeration => exact congrArg Except.ok (Option.some.inj h)
  | value index type =>
    obtain ⟨value, hvalue, rfl⟩ := Option.map_eq_some_iff.mp h
    simp [entryAt, valueAt, hvalue, Except.map]

namespace Declaration

variable {declaration : Declaration}
  (htypes : declaration.types = commonTypes? declaration.members)

include htypes

/-- Every member has a value of the slot's type at the position of a slot. -/
theorem value_of_mem_slots {index : Nat} {type : ValueType}
    (hslot : .value index type ∈ declaration.slots) {member : Member}
    (hmember : member ∈ declaration.members) :
    ∃ value, member.values[index]? = some value ∧ value.type = type := by
  obtain ⟨entry, -, value, -, hvalue, htype⟩ := entry?_of_mem_slots htypes hslot hmember
  exact ⟨value, hvalue, htype⟩

/-- In a slot of common types, no index panics. -/
theorem conversionAt_eq_ok {slot : Slot} (hslot : slot ∈ declaration.slots) :
    declaration.conversionAt slot = .ok (declaration.conversion slot) := by
  have harms (arm : Member → Entry → Arm) :
      (declaration.members.mapM fun member => (member.entryAt slot).map (arm member)) =
        .ok (declaration.members.filterMap fun member =>
          (member.entry? slot).map (arm member)) := by
    refine mapM_eq_ok_filterMap fun member hmember => ?_
    obtain ⟨entry, hentry, -⟩ := entry?_of_mem_slots htypes hslot hmember
    exact ⟨arm member entry, by rw [Member.entryAt_eq_ok hentry]; rfl, by rw [hentry]; rfl⟩
  have houtgoing := harms fun member entry => ⟨.variant member.ident, false, .entry entry⟩
  have hincoming := harms fun member entry => ⟨entry, guards slot, .constant member.ident⟩
  rw [conversionAt, houtgoing, hincoming]
  rfl

/-- No index panics in the conversions of a declaration, because their slots are common to all
members. -/
theorem conversionsAt_eq_ok : declaration.conversionsAt = .ok declaration.conversions := by
  have hconversions : declaration.conversions =
      declaration.slots.filterMap (some ∘ declaration.conversion) := by
    rw [List.filterMap_eq_map, conversions]
  rw [hconversions]
  exact mapM_eq_ok_filterMap fun slot hslot => ⟨_, conversionAt_eq_ok htypes hslot, rfl⟩

/-- No index panics in the code of a wrapper, and the code is the one that is emitted. -/
theorem tokensAt_eq_ok : declaration.tokensAt = .ok declaration.tokens := by
  rw [tokensAt, conversionsAt_eq_ok htypes]
  rfl

end Declaration

/-- Without common types, an index may panic. -/
example : ({ (default : Declaration) with types := some [.string], members := [default] }).tokensAt =
    .error (.text "index out of bounds: the len is 0 but the index is 0") := by
  rfl

namespace Found

variable {host : Host} {found : Found}

/-- With indices that may panic, every enumeration has the outcome that it has. -/
theorem outcomeAt_eq (host : Host) (found : Found) : found.outcomeAt host = found.outcome host := by
  unfold outcomeAt outcome
  cases hresolve : (found.resolve host).2 with
  | error fault => rfl
  | ok declaration =>
    have htypes : declaration.types = commonTypes? declaration.members :=
      Declaration.types_of_resolve hresolve
    simp only [Declaration.tokensAt_eq_ok htypes]
    rfl

/-- A panic comes from the host, when it is asked about a variant. -/
theorem panics_of_outcome (hfound : host.wrapperOptions found.item = .ok (some found.options))
    {fullName : String} {panic : Panic}
    (h : found.outcome host = .error ⟨fullName, .panicked panic⟩) :
    found.fullName = fullName ∧ ∃ variant ∈ found.item.variants,
      host.initializer variant = .error panic ∨ host.variantValues variant = .error panic := by
  obtain ⟨check, fault, ⟨hbreaks, -⟩, hdiagnostic⟩ := (outcome_error_iff hfound).mp h
  obtain ⟨rfl, rfl⟩ := Diagnostic.mk.inj hdiagnostic
  refine ⟨rfl, ?_⟩
  cases hbreaks with
  | variant hvariant hfault =>
    cases hfault with
    | initializer hpanic => exact ⟨_, List.mem_of_getElem? hvariant, .inl hpanic⟩
    | valuesPanic hpanic => exact ⟨_, List.mem_of_getElem? hvariant, .inr hpanic⟩

end Found

/-- Values are indexed safely. Common types are the types of all members in whatever order they
stand, and are missing only if two members differ. So every member of a declaration has a value of
the right type at the position of every slot, the conversions are the same ones with an index that
panics, and a panic among the outcomes of a file is always one of the host's. Values have one of the
types of `ValueType`, all of which have names that can be written, and a `Host` keeps no state. -/
theorem indexing_never_panics :
    (∀ members types, commonTypes? members = some types ↔
      (∀ member ∈ members, member.types = types) ∧ (members = [] → types = [])) ∧
    (∀ members, commonTypes? members = none ↔
      ∃ first ∈ members, ∃ second ∈ members, first.Differs second) ∧
    (∀ members others : List Member, members.Perm others →
      commonTypes? members = commonTypes? others) ∧
    (∀ host item fullName options declaration,
      (Declaration.resolve host item fullName options).2 = .ok declaration →
      (∀ index type, .value index type ∈ declaration.slots → ∀ member ∈ declaration.members,
        ∃ value, member.values[index]? = some value ∧ value.type = type) ∧
      declaration.conversionsAt = .ok declaration.conversions) ∧
    ∀ host file generation, Host.generate host file = .ok generation →
      ∃ found, host.found file = .ok found ∧
        generation.outcomes = found.map (Found.outcomeAt host) ∧
        ∀ fullName panic, .error ⟨fullName, .panicked panic⟩ ∈ generation.outcomes →
          ∃ entry ∈ found, entry.fullName = fullName ∧ ∃ variant ∈ entry.item.variants,
            host.initializer variant = .error panic ∨ host.variantValues variant = .error panic := by
  refine ⟨fun _ _ => commonTypes?_eq_some_iff, fun _ => commonTypes?_eq_none_iff,
    fun _ _ => commonTypes?_perm, fun host item fullName options declaration hresolve => ?_,
    fun host file generation hgenerate => ?_⟩
  · have htypes := Declaration.types_of_resolve hresolve
    exact ⟨fun _ _ hslot _ hmember => Declaration.value_of_mem_slots htypes hslot hmember,
      Declaration.conversionsAt_eq_ok htypes⟩
  · unfold Host.generate at hgenerate
    cases hfound : host.found file with
    | error panic => simp [hfound] at hgenerate
    | ok found =>
      simp only [hfound, Except.ok.injEq] at hgenerate
      subst hgenerate
      refine ⟨found, rfl, List.map_congr_left fun entry _ => (entry.outcomeAt_eq host).symm, ?_⟩
      intro fullName panic hmem
      obtain ⟨entry, hentry, houtcome⟩ := List.mem_map.mp hmem
      obtain ⟨hoptions, -⟩ := Item.options_of_mem_foundAll hfound entry hentry
      exact ⟨entry, hentry, Found.panics_of_outcome hoptions houtcome⟩

/-- An enumeration with two values for each variant, and one with a variant that the host panics
about. -/
def pairedFile : SourceFile :=
  [.enumeration (.ofVariants "Level" [] [.ofTexts "Low" none none, .ofTexts "High" none none]),
    .enumeration (.ofVariants "Other" [] [.ofTexts "Fine" none none, .ofTexts "Bad" none none])]

/-- A host that panics about one of the variants. -/
def pairingHost : Host :=
  Script.host
    { schema := .standard, ignored := [], unknown := [], suffix := "Values",
      convertOrdinal := true, throwOnCastFailure := false, panicText := [], panicNamed := ["Bad"],
      panicSilent := [], rejected := [],
      values := [("Low", ["1", "2u8"]), ("High", ["3", "4u8"]), ("Fine", ["5"])],
      initializers := none }

/-- The second values are indexed without a panic, and the one panic is about a variant. -/
theorem outcomes_of_pairedFile :
    ∃ generation found, pairingHost.generate pairedFile = .ok generation ∧
      pairingHost.found pairedFile = .ok found ∧
      generation.outcomes = found.map (Found.outcomeAt pairingHost) ∧
      generation.units.map SourceUnit.name = ["LevelValues.rs"] ∧
      ∃ entry ∈ found, entry.fullName = "Other" ∧ ∃ variant ∈ entry.item.variants,
        pairingHost.initializer variant = .error (.text "unsupported variant Bad") ∨
          pairingHost.variantValues variant = .error (.text "unsupported variant Bad") := by
  obtain ⟨generation, hgeneration⟩ :
      ∃ generation, pairingHost.generate pairedFile = .ok generation := ⟨_, rfl⟩
  obtain ⟨found, hfound, houtcomes, hpanics⟩ :=
    indexing_never_panics.2.2.2.2 pairingHost pairedFile generation hgeneration
  have hunits : generation.units.map SourceUnit.name = ["LevelValues.rs"] := by
    cases hgeneration
    rfl
  have hpanic : .error ⟨"Other", .panicked (.text "unsupported variant Bad")⟩ ∈
      generation.outcomes := by
    cases hgeneration
    exact List.mem_of_getElem? (i := 1) rfl
  exact ⟨generation, found, hgeneration, hfound, houtcomes, hunits, hpanics _ _ hpanic⟩

end ValuedEnum
