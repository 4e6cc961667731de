import ValuedEnum.Wrapper.Conversion

/-!
# The slots of a declaration

A slot for values stands for a type at the first position where all members have it. This file
proves that the common types are really common, and that every member has an entry of the slot's
type in every slot.
-/

namespace ValuedEnum

/-- Common types are the types of every member. -/
theorem types_eq_of_commonTypes? {members : List Member} {types : List ValueType}
    (h : commonTypes? members = some types) : ∀ member ∈ members, member.types = types := by
  cases members with
  | nil => simp
  | cons first rest =>
    simp only [commonTypes?_cons, Option.ite_none_right_eq_some, Option.some.injEq] at h
    obtain ⟨hall, rfl⟩ := h
    intro member hmember
    rcases List.mem_cons.mp hmember with rfl | hmember
    · rfl
    · simpa using List.all_eq_true.mp hall member hmember

/-- Members have types in common if no two of them differ. -/
theorem isSome_commonTypes?_iff {members : List Member} :
    (commonTypes? members).isSome = true ↔
      ∀ first ∈ members, ∀ second ∈ members, first.types = second.types := by
  constructor
  · intro h first hfirst second hsecond
    obtain ⟨types, htypes⟩ := Option.isSome_iff_exists.mp h
    have hall := types_eq_of_commonTypes? htypes
    rw [hall first hfirst, hall second hsecond]
  · intro h
    cases members with
    | nil => rfl
    | cons first rest =>
      have hrest : ∀ other ∈ rest, other.types = first.types := fun other hother =>
        h other (List.mem_cons_of_mem _ hother) first List.mem_cons_self
      simpa [commonTypes?_cons] using hrest

/-- Some type is the one of strings if that one is listed. -/
theorem ValueType.any_isString_iff {types : List ValueType} :
    types.any ValueType.isString = true ↔ .string ∈ types := by
  have hstring (type : ValueType) : type.isString = true ↔ type = .string := by
    cases type <;> simp [ValueType.isString]
  simp [hstring]

namespace Slot

/-- The slots for values stand at the first position of each type that was not seen before. -/
theorem mem_ofTypes_iff {slot : Slot} {start : Nat} {seen types : List ValueType} :
    slot ∈ ofTypes start seen types ↔
      ∃ index type, slot = .value (start + index) type ∧ types[index]? = some type ∧
        type ∉ seen ∧ ∀ earlier < index, types[earlier]? ≠ some type := by
  -- What was seen grows on the way, so the induction is for any start and any types seen before.
  induction types generalizing slot start seen with
  | nil => simp [ofTypes]
  | cons first rest ih =>
    constructor
    · intro hslot
      by_cases hfirst : first ∈ seen
      · rw [ofTypes, if_pos hfirst, ih] at hslot
        obtain ⟨index, type, rfl, htype, hseen, hearlier⟩ := hslot
        refine ⟨index + 1, type, by simp [Nat.add_assoc, Nat.add_comm 1], by simpa, hseen, ?_⟩
        rintro (_ | earlier) hlt
        · simp only [List.getElem?_cons_zero, ne_eq, Option.some.injEq]
          rintro rfl
          exact hseen hfirst
        · simpa using hearlier earlier (by omega)
      · rw [ofTypes, if_neg hfirst, List.mem_cons, ih] at hslot
        rcases hslot with rfl | ⟨index, type, rfl, htype, hseen, hearlier⟩
        · exact ⟨0, first, by simp, by simp, hfirst, by simp⟩
        · simp only [List.mem_cons, not_or] at hseen
          refine ⟨index + 1, type, by simp [Nat.add_assoc, Nat.add_comm 1], by simpa, hseen.2, ?_⟩
          rintro (_ | earlier) hlt
          · simpa using fun h => hseen.1 h.symm
          · simpa using hearlier earlier (by omega)
    · rintro ⟨index, type, rfl, htype, hseen, hearlier⟩
      cases index with
      | zero =>
        simp only [List.getElem?_cons_zero, Option.some.injEq] at htype
        subst htype
        simp [ofTypes, hseen]
      | succ index =>
        have hne : first ≠ type := by simpa using hearlier 0 (by omega)
        have hrest : ∀ earlier < index, rest[earlier]? ≠ some type := fun earlier hlt => by
          simpa using hearlier (earlier + 1) (by omega)
        -- Behind a type the same slot is found whether the type was seen before or is now.
        have hmem (seen : List ValueType) (hseen : type ∉ seen) :
            Slot.value (start + 1 + index) type ∈ ofTypes (start + 1) seen rest :=
          ih.mpr ⟨index, type, rfl, by simpa using htype, hseen, hrest⟩
        rw [show start + (index + 1) = start + 1 + index by omega, ofTypes]
        split
        · exact hmem seen hseen
        · exact List.mem_cons_of_mem _ (hmem (first :: seen) (by simp [hne.symm, hseen]))

/-- Every type that was not seen before has a slot. -/
theorem exists_value_mem_ofTypes {type : ValueType} (start : Nat) {seen types : List ValueType}
    (htype : type ∈ types) (hseen : type ∉ seen) :
    ∃ index, .value index type ∈ ofTypes start seen types := by
  induction types generalizing start seen with
  | nil => simp at htype
  | cons first rest ih =>
    unfold ofTypes
    by_cases hsame : type = first
    · subst hsame
      exact ⟨start, by simp [hseen]⟩
    · have hrest : type ∈ rest := (List.mem_cons.mp htype).resolve_left hsame
      split
      · exact ih _ hrest hseen
      · have hnew : type ∉ first :: seen := by simp [hsame, hseen]
        obtain ⟨index, hindex⟩ := ih (start + 1) hrest hnew
        exact ⟨index, List.mem_cons_of_mem _ hindex⟩

/-- Where a slot's values are. -/
def position : Slot → Nat
  | .value index _ => index
  | _ => 0

/-- The slots for values are in the order of their positions. -/
theorem pairwise_position_ofTypes (start : Nat) (seen types : List ValueType) :
    (ofTypes start seen types).Pairwise fun first second => first.position < second.position := by
  induction types generalizing start seen with
  | nil => simp [ofTypes]
  | cons first rest ih =>
    unfold ofTypes
    split
    · exact ih (start + 1) seen
    · refine List.Pairwise.cons ?_ (ih (start + 1) (first :: seen))
      intro slot hslot
      obtain ⟨index, type, rfl, _⟩ := mem_ofTypes_iff.mp hslot
      have hlater : start < start + 1 + index := by omega
      exact hlater

end Slot

namespace Declaration

variable {declaration : Declaration}

/-- The slot of the enumeration is always there. -/
theorem enumeration_mem_slots (declaration : Declaration) : .enumeration ∈ declaration.slots := by
  simp [slots]

/-- Ordinals have a slot if it is asked for and no values have their type. -/
theorem ordinal_mem_slots_iff :
    .ordinal ∈ declaration.slots ↔ declaration.convertOrdinal = true ∧
      .integer declaration.repr ∉ declaration.types.getD [] := by
  have hvalue : .ordinal ∉ Slot.ofTypes 0 [] (declaration.types.getD []) := fun h => by
    obtain ⟨index, type, hslot, _⟩ := Slot.mem_ofTypes_iff.mp h
    simp at hslot
  simp [slots, hvalue]

/-- The slots for values stand for the types at their first positions. -/
theorem value_mem_slots_iff {index : Nat} {type : ValueType} :
    .value index type ∈ declaration.slots ↔ (declaration.types.getD [])[index]? = some type ∧
      ∀ earlier < index, (declaration.types.getD [])[earlier]? ≠ some type := by
  have hslot : .value index type ∈ declaration.slots ↔
      .value index type ∈ Slot.ofTypes 0 [] (declaration.types.getD []) := by
    simp [slots]
  rw [hslot, Slot.mem_ofTypes_iff]
  constructor
  · rintro ⟨position, found, hfound, htype, _, hearlier⟩
    simp only [Nat.zero_add, Slot.value.injEq] at hfound
    obtain ⟨rfl, rfl⟩ := hfound
    exact ⟨htype, hearlier⟩
  · rintro ⟨htype, hearlier⟩
    exact ⟨index, type, by simp, htype, List.not_mem_nil, hearlier⟩

/-- A type has a slot at one position only. -/
theorem value_mem_slots_unique {first second : Nat} {type : ValueType}
    (hfirst : .value first type ∈ declaration.slots)
    (hsecond : .value second type ∈ declaration.slots) : first = second := by
  obtain ⟨hfirstType, hfirstEarlier⟩ := value_mem_slots_iff.mp hfirst
  obtain ⟨hsecondType, hsecondEarlier⟩ := value_mem_slots_iff.mp hsecond
  rcases Nat.lt_trichotomy first second with hlt | heq | hgt
  · exact absurd hfirstType (hsecondEarlier first hlt)
  · exact heq
  · exact absurd hsecondType (hfirstEarlier second hgt)

/-- No slot is there twice. -/
theorem nodup_slots (declaration : Declaration) : declaration.slots.Nodup := by
  have hvalues : (Slot.ofTypes 0 [] (declaration.types.getD [])).Nodup :=
    (Slot.pairwise_position_ofTypes 0 [] (declaration.types.getD [])).imp fun hlt heq => by
      rw [heq] at hlt
      exact Nat.lt_irrefl _ hlt
  have hother : ∀ slot ∈ Slot.ofTypes 0 [] (declaration.types.getD []),
      slot ≠ .ordinal ∧ slot ≠ .enumeration := by
    intro slot hslot
    obtain ⟨index, type, rfl, _⟩ := Slot.mem_ofTypes_iff.mp hslot
    simp
  have henumeration :
      (.enumeration :: Slot.ofTypes 0 [] (declaration.types.getD [])).Nodup :=
    List.nodup_cons.mpr ⟨fun h => (hother _ h).2 rfl, hvalues⟩
  simp only [slots]
  split
  · exact List.nodup_cons.mpr ⟨by simpa using fun h => (hother _ h).1 rfl, henumeration⟩
  · exact henumeration

/-- A slot for values stands for a type that all members have at its position, and at no position
in front of it. -/
theorem types_of_value_mem_slots (htypes : declaration.types = commonTypes? declaration.members)
    {index : Nat} {type : ValueType} (hslot : .value index type ∈ declaration.slots) :
    ∀ member ∈ declaration.members, member.types[index]? = some type ∧
      ∀ earlier < index, member.types[earlier]? ≠ some type := by
  obtain ⟨htype, hearlier⟩ := value_mem_slots_iff.mp hslot
  intro member hmember
  cases hcommon : declaration.types with
  | none => simp [hcommon] at htype
  | some types =>
    have hmember := types_eq_of_commonTypes? (htypes.symm.trans hcommon) member hmember
    simp only [hcommon, Option.getD_some] at htype hearlier
    rw [hmember]
    exact ⟨htype, hearlier⟩

/-- Every common type has a slot for values. -/
theorem exists_value_mem_slots {type : ValueType} (htype : type ∈ declaration.types.getD []) :
    ∃ index, .value index type ∈ declaration.slots := by
  obtain ⟨index, hindex⟩ :=
    Slot.exists_value_mem_ofTypes 0 htype (List.not_mem_nil : type ∉ [])
  exact ⟨index, by simp [slots, hindex]⟩

/-- Ordinals have a slot if it is asked for and no slot for values has their type. -/
theorem ordinal_mem_slots (hconvert : declaration.convertOrdinal = true)
    (hvalues : ∀ index, .value index (.integer declaration.repr) ∉ declaration.slots) :
    .ordinal ∈ declaration.slots := by
  have hrepr : .integer declaration.repr ∉ declaration.types.getD [] := fun htype => by
    obtain ⟨index, hindex⟩ := exists_value_mem_slots htype
    exact hvalues index hindex
  exact ordinal_mem_slots_iff.mpr ⟨hconvert, hrepr⟩

/-- Every member has an entry in every slot; at a slot for values it is a value of the slot's
type. -/
theorem entry?_of_mem_slots (htypes : declaration.types = commonTypes? declaration.members)
    {slot : Slot} (hslot : slot ∈ declaration.slots) {member : Member}
    (hmember : member ∈ declaration.members) :
    ∃ entry, member.entry? slot = some entry ∧
      match slot with
      | .ordinal => entry = .ordinal member.ordinal
      | .enumeration => entry = .variant member.ident
      | .value index type =>
        ∃ value, entry = .value value ∧ member.values[index]? = some value ∧ value.type = type := by
  cases slot with
  | ordinal => exact ⟨_, rfl, rfl⟩
  | enumeration => exact ⟨_, rfl, rfl⟩
  | value index type =>
    have htype := (types_of_value_mem_slots htypes hslot member hmember).1
    simp only [Member.types, List.getElem?_map, Option.map_eq_some_iff] at htype
    obtain ⟨value, hvalue, htype⟩ := htype
    exact ⟨.value value, by simp [Member.entry?, hvalue], value, rfl, hvalue, htype⟩

end Declaration

end ValuedEnum
