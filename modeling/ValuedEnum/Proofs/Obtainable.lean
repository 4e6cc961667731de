import ValuedEnum.Proofs.Conversions
import ValuedEnum.Proofs.Emission.Display

/-!
# Wrappers that can be obtained

A wrapper is only obtained from the emitted code. Whatever is called, and in which order, every
wrapper holds the variant of a member; if failed conversions return defaults, it may also hold the
default variant. The laws of wrappers follow from this invariant.
-/

namespace ValuedEnum

open TokenStream Code

/-- A use of the emitted code; wrappers that were obtained are named by their positions. -/
inductive Use (α : Type) where
  | constant (name : String)
  | preset
  | enter (slot : Slot) (input : SlotValue α)
  | clone (index : Nat)
  /-- A conversion that fails gives the wrapper back. -/
  | leave (slot : Slot) (index : Nat)

namespace Declaration

variable {α : Type} (declaration : Declaration) (meaning : Interpretation α)

/-- The items that run in these uses and when a wrapper is shown: its constants, its default value,
its copies, the conversions of its slots and its display. -/
def usedItems : List CodeItem :=
  declaration.wrapperBody :: declaration.defaultItems ++
    declaration.cloneItem :: declaration.conversions.flatMap declaration.conversionItems ++
    declaration.displayItems

/-- Whatever runs is emitted. -/
theorem usedItems_subset_items : declaration.usedItems ⊆ declaration.items := by
  intro code hcode
  simp only [usedItems, items, List.cons_append, List.append_assoc, List.mem_cons,
    List.mem_append] at hcode ⊢
  tauto

/-- The wrapper that a use returns, if it does. Only the conversions of slots are emitted. -/
def obtain? (obtained : List Wrapped) : Use α → Option Wrapped
  | .constant name => declaration.constant? meaning name
  | .preset => declaration.presetWrapper? meaning
  | .enter slot input =>
    if slot ∈ declaration.slots then
      match declaration.enter? meaning slot input with
      | some (.ok wrapper) => some wrapper
      | _ => none
    else none
  | .clone index => obtained[index]?.bind (declaration.clone? meaning)
  | .leave slot index =>
    if slot ∈ declaration.slots then
      obtained[index]?.bind fun wrapper =>
        match declaration.leave? meaning slot wrapper with
        | some (.error returned) => some returned
        | _ => none
    else none

/-- All wrappers that were obtained, after some uses. -/
def obtained (before : List Wrapped) : List (Use α) → List Wrapped
  | [] => before
  | use :: rest => obtained (before ++ (declaration.obtain? meaning before use).toList) rest

/-- The wrappers that the invariant admits. -/
inductive Permits (declaration : Declaration) (meaning : Interpretation α) : Wrapped → Prop
  | member {member : Member} (hmember : member ∈ declaration.members) :
    Permits declaration meaning ⟨member.ident.text⟩
  | preset (hthrow : declaration.throwOnCastFailure = false) :
    Permits declaration meaning ⟨meaning.presetVariant⟩

variable {declaration meaning}

/-! ### The invariant -/

/-- A constant holds the variant of a member. -/
theorem permits_of_constant? {name : String} {wrapper : Wrapped}
    (h : declaration.constant? meaning name = some wrapper) :
    declaration.Permits meaning wrapper := by
  rw [constant?_eq] at h
  split at h
  · rename_i hexists
    obtain ⟨member, hmember, rfl⟩ := hexists
    exact Option.some.inj h ▸ .member hmember
  · simp at h

/-- The default wrapper holds the default variant. -/
theorem permits_of_presetWrapper? {wrapper : Wrapped}
    (h : declaration.presetWrapper? meaning = some wrapper) :
    declaration.Permits meaning wrapper := by
  rw [presetWrapper?_eq] at h
  split at h
  · simp at h
  · rename_i hthrow
    exact Option.some.inj h ▸ .preset (by simpa using hthrow)

/-- A value is converted to a wrapper of a member, or to the default wrapper. -/
theorem Resolved.permits_of_enter? (hresolved : declaration.Resolved) {slot : Slot}
    (hslot : slot ∈ declaration.slots) {input : SlotValue α} {wrapper : Wrapped}
    (h : declaration.enter? meaning slot input = some (.ok wrapper)) :
    declaration.Permits meaning wrapper := by
  rw [hresolved.enter?_eq meaning hslot] at h
  cases hfirst : declaration.firstEqual? meaning slot input with
  | some member =>
    simp only [hfirst, Option.some.injEq, Except.ok.injEq] at h
    exact h ▸ .member (List.mem_of_find?_eq_some hfirst)
  | none =>
    cases hthrow : declaration.throwOnCastFailure with
    | true => simp [hfirst, fallback, hthrow] at h
    | false =>
      simp only [hfirst, fallback, hthrow, Bool.false_eq_true, if_false, Option.some.injEq,
        Except.ok.injEq] at h
      exact h ▸ .preset hthrow

/-- A failed conversion returns the wrapper that it was given. -/
theorem Resolved.eq_of_leave?_error (hresolved : declaration.Resolved) {slot : Slot}
    (hslot : slot ∈ declaration.slots) {wrapper returned : Wrapped}
    (h : declaration.leave? meaning slot wrapper = some (.error returned)) :
    returned = wrapper := by
  rw [hresolved.leave?_eq meaning hslot] at h
  cases hnamed : declaration.memberNamed? wrapper.variant with
  | some member =>
    simp only [hnamed, Option.map_eq_some_iff, reduceCtorEq, and_false, exists_false] at h
  | none =>
    cases hthrow : declaration.throwOnCastFailure with
    | true => simpa [hnamed, fallback, hthrow, eq_comm] using h
    | false => simp [hnamed, fallback, hthrow] at h

/-- Every use keeps the invariant. -/
theorem Resolved.permits_of_obtain? (hresolved : declaration.Resolved) {before : List Wrapped}
    (hbefore : ∀ wrapper ∈ before, declaration.Permits meaning wrapper) {use : Use α}
    {wrapper : Wrapped} (h : declaration.obtain? meaning before use = some wrapper) :
    declaration.Permits meaning wrapper := by
  cases use with
  | constant name => exact permits_of_constant? h
  | preset => exact permits_of_presetWrapper? h
  | enter slot input =>
    simp only [obtain?, Option.ite_none_right_eq_some] at h
    obtain ⟨hslot, h⟩ := h
    split at h
    · rename_i returned henter
      exact Option.some.inj h ▸ hresolved.permits_of_enter? hslot henter
    · simp at h
  | clone index =>
    obtain ⟨original, horiginal, hcopy⟩ := Option.bind_eq_some_iff.mp h
    simp only [clone?_eq, Option.ite_none_right_eq_some, Option.some.injEq] at hcopy
    exact hcopy.2 ▸ hbefore original (List.mem_of_getElem? horiginal)
  | leave slot index =>
    simp only [obtain?, Option.ite_none_right_eq_some, Option.bind_eq_some_iff] at h
    obtain ⟨hslot, original, horiginal, h⟩ := h
    split at h
    · rename_i returned hleave
      have hsame := hresolved.eq_of_leave?_error hslot hleave
      exact Option.some.inj h ▸ hsame ▸ hbefore original (List.mem_of_getElem? horiginal)
    · simp at h

/-- Every wrapper that can be obtained is admitted. -/
theorem Resolved.permits_of_mem_obtained (hresolved : declaration.Resolved)
    {before : List Wrapped} (hbefore : ∀ wrapper ∈ before, declaration.Permits meaning wrapper)
    (uses : List (Use α)) :
    ∀ wrapper ∈ declaration.obtained meaning before uses, declaration.Permits meaning wrapper := by
  induction uses generalizing before with
  | nil => exact hbefore
  | cons use rest ih =>
    refine ih fun wrapper hwrapper => ?_
    rcases List.mem_append.mp hwrapper with hwrapper | hwrapper
    · exact hbefore wrapper hwrapper
    · exact hresolved.permits_of_obtain? hbefore (Option.mem_toList.mp hwrapper)

/-! ### What follows for admitted wrappers -/

/-- The wrapper of a member is converted to every slot. -/
theorem Resolved.leave?_ok_of_member (hresolved : declaration.Resolved) {slot : Slot}
    (hslot : slot ∈ declaration.slots) {member : Member} (hmember : member ∈ declaration.members) :
    ∃ value, declaration.leave? meaning slot ⟨member.ident.text⟩ = some (.ok value) := by
  obtain ⟨named, hnamed⟩ : ∃ named, declaration.memberNamed? member.ident.text = some named :=
    Option.isSome_iff_exists.mp (List.find?_isSome.mpr ⟨member, hmember, by simp⟩)
  obtain ⟨entry, hentry, hfits⟩ := hresolved.fits hslot (List.mem_of_find?_eq_some hnamed)
  obtain ⟨value, hvalue⟩ : ∃ value, meaning.value? declaration.ident.text slot
      (declaration.entryTokens entry) = some value := exists_value?_entryTokens meaning hfits
  refine ⟨value, ?_⟩
  rw [hresolved.leave?_eq meaning hslot, hnamed]
  simp only [hentry, Option.bind_some, hvalue, Option.map_some]

/-- If conversions may fail, every admitted wrapper is converted to every slot. -/
theorem Permits.leave?_ok (hresolved : declaration.Resolved)
    (hthrow : declaration.throwOnCastFailure = true) {slot : Slot}
    (hslot : slot ∈ declaration.slots) {wrapper : Wrapped}
    (hwrapper : declaration.Permits meaning wrapper) :
    ∃ value, declaration.leave? meaning slot wrapper = some (.ok value) := by
  cases hwrapper with
  | member hmember => exact hresolved.leave?_ok_of_member hslot hmember
  | preset hno => simp [hthrow] at hno

/-- If conversions do not fail, every input is converted. -/
theorem Resolved.enter?_ok (hresolved : declaration.Resolved) (meaning : Interpretation α)
    (hthrow : declaration.throwOnCastFailure = false) {slot : Slot}
    (hslot : slot ∈ declaration.slots) (input : SlotValue α) :
    ∃ wrapper, declaration.enter? meaning slot input = some (.ok wrapper) := by
  rw [hresolved.enter?_eq meaning hslot]
  cases declaration.firstEqual? meaning slot input with
  | some member => exact ⟨_, rfl⟩
  | none => exact ⟨⟨meaning.presetVariant⟩, by simp [fallback, hthrow]⟩

/-- A variant of a member is converted to the wrapper that holds it. -/
theorem Resolved.enter?_enumeration (hresolved : declaration.Resolved) (name : String) :
    declaration.enter? meaning .enumeration (.variant name) =
      match declaration.memberNamed? name with
      | some _ => some (.ok ⟨name⟩)
      | none => some (declaration.fallback (.variant name) ⟨meaning.presetVariant⟩) := by
  have hnamed : declaration.firstEqual? meaning .enumeration (.variant name) =
      declaration.memberNamed? name := rfl
  rw [hresolved.enter?_eq meaning declaration.enumeration_mem_slots, hnamed]
  cases hmember : declaration.memberNamed? name with
  | none => rfl
  | some member =>
    have hname : member.ident.text = name := by simpa using List.find?_some hmember
    simp only [hname]

/-- The wrapper of a member is converted to the variant that it holds. -/
theorem Resolved.leave?_enumeration (hresolved : declaration.Resolved) (wrapper : Wrapped) :
    declaration.leave? meaning .enumeration wrapper =
      match declaration.memberNamed? wrapper.variant with
      | some _ => some (.ok (.variant wrapper.variant))
      | none => some (declaration.fallback wrapper (.variant meaning.presetVariant)) := by
  rw [hresolved.leave?_eq meaning declaration.enumeration_mem_slots]
  cases hmember : declaration.memberNamed? wrapper.variant with
  | none => rfl
  | some member =>
    have hname : member.ident.text = wrapper.variant := by simpa using List.find?_some hmember
    simp [Member.entry?, Interpretation.value?, entryTokens, hname]

/-- If conversions do not fail, every admitted wrapper comes back from the enumeration. -/
theorem Permits.enter?_leave? (hresolved : declaration.Resolved)
    (hthrow : declaration.throwOnCastFailure = false) {wrapper : Wrapped}
    (hwrapper : declaration.Permits meaning wrapper) :
    declaration.leave? meaning .enumeration wrapper = some (.ok (.variant wrapper.variant)) ∧
      declaration.enter? meaning .enumeration (.variant wrapper.variant) = some (.ok wrapper) := by
  rw [hresolved.leave?_enumeration, hresolved.enter?_enumeration]
  cases hnamed : declaration.memberNamed? wrapper.variant with
  | some member => exact ⟨rfl, rfl⟩
  | none =>
    cases hwrapper with
    | member hmember => simpa using List.find?_eq_none.mp hnamed _ hmember
    | preset _ => simp [fallback, hthrow]

/-- If conversions may fail, every admitted wrapper is shown without an error. -/
theorem Permits.show?_ok (hresolved : declaration.Resolved)
    (hthrow : declaration.throwOnCastFailure = true) (hdisplay : declaration.displayItems ≠ [])
    {wrapper : Wrapped} (hwrapper : declaration.Permits meaning wrapper) :
    ∃ value, declaration.show? meaning wrapper = some (.ok value) := by
  have hstring : (declaration.types.getD []).any ValueType.isString = true := by
    by_contra hno
    simp [displayItems, hno] at hdisplay
  obtain ⟨index, hindex⟩ := exists_value_mem_slots (ValueType.any_isString_iff.mp hstring)
  obtain ⟨value, hleave⟩ := hwrapper.leave?_ok hresolved hthrow hindex
  have hslot := declaration.find?_isString hindex
  refine ⟨value, declaration.show?_of_leave? meaning hstring hslot ?_ hleave⟩
  cases hwrapper with
  | member hmember => exact hresolved.clone?_member meaning hmember rfl
  | preset hno => simp [hthrow] at hno

/-- The laws of all wrappers that can be obtained. Whatever runs is emitted with the wrapper. They
hold the variant of a member, or the default variant if conversions do not fail. So no conversion
and no display of them fails where conversions may fail; where they do not, converting to the
enumeration and back returns the same wrapper, and what the conversion of a variant returns stays
the same under a further one. A copy is equal to its original for all variants, each of which has
its own arm. -/
theorem obtained_wrappers_of_resolve {host : Host} {item : EnumItem} {fullName : String}
    {options : Except Problem WrapperOptions}
    (hresolve : (resolve host item fullName options).2 = .ok declaration) :
    (∀ code ∈ declaration.usedItems, code ∈ declaration.items) ∧
    (∀ uses, ∀ wrapper ∈ declaration.obtained meaning [] uses,
      declaration.Permits meaning wrapper) ∧
    (declaration.throwOnCastFailure = true →
      ∀ uses, ∀ wrapper ∈ declaration.obtained meaning [] uses,
        (∀ slot ∈ declaration.slots, ∃ value,
          declaration.leave? meaning slot wrapper = some (.ok value)) ∧
        (declaration.displayItems ≠ [] → ∃ value,
          declaration.show? meaning wrapper = some (.ok value))) ∧
    (declaration.throwOnCastFailure = false →
      (∀ uses, ∀ wrapper ∈ declaration.obtained meaning [] uses, ∃ value,
        declaration.leave? meaning .enumeration wrapper = some (.ok value) ∧
        declaration.enter? meaning .enumeration value = some (.ok wrapper)) ∧
      ∀ variant ∈ item.variants, ∃ wrapper value,
        declaration.enter? meaning .enumeration (.variant variant.ident.text) =
          some (.ok wrapper) ∧
        declaration.leave? meaning .enumeration wrapper = some (.ok value) ∧
        declaration.enter? meaning .enumeration value = some (.ok wrapper)) ∧
    ∀ variant ∈ item.variants,
      declaration.clone? meaning ⟨variant.ident.text⟩ = some ⟨variant.ident.text⟩ ∧
      ((item.variants.map fun variant => variant.ident.text).Nodup →
        (declaration.cloneArms.countP fun arm =>
          WrittenArm.accepts meaning declaration.ident.text .enumeration arm.pattern
            (.variant variant.ident.text)) = 1) := by
  have hresolved := Resolved.of_resolve hresolve
  have hvariants : declaration.variants.map Ident.text =
      item.variants.map fun variant => variant.ident.text := by
    rw [variants_of_resolve hresolve, List.map_map]
    rfl
  -- The invariant holds of no wrappers at all, and every use keeps it.
  have hpermits (uses : List (Use α)) : ∀ wrapper ∈ declaration.obtained meaning [] uses,
      declaration.Permits meaning wrapper :=
    hresolved.permits_of_mem_obtained (fun _ hwrapper => absurd hwrapper List.not_mem_nil) uses
  refine ⟨declaration.usedItems_subset_items, hpermits, fun hthrow uses wrapper hwrapper => ?_,
    fun hthrow => ⟨?_, ?_⟩, fun variant hvariant => ⟨?_, fun hnames => ?_⟩⟩
  · have hwrapper := hpermits uses wrapper hwrapper
    exact ⟨fun slot hslot => hwrapper.leave?_ok hresolved hthrow hslot,
      fun hdisplay => hwrapper.show?_ok hresolved hthrow hdisplay⟩
  · intro uses wrapper hwrapper
    exact ⟨_, (hpermits uses wrapper hwrapper).enter?_leave? hresolved hthrow⟩
  · intro variant _
    obtain ⟨wrapper, henter⟩ := hresolved.enter?_ok meaning hthrow
      declaration.enumeration_mem_slots (.variant variant.ident.text)
    have hwrapper := hresolved.permits_of_enter? declaration.enumeration_mem_slots henter
    exact ⟨wrapper, _, henter, hwrapper.enter?_leave? hresolved hthrow⟩
  · rw [clone?_eq, hvariants, if_pos (List.mem_map_of_mem hvariant)]
  · rw [countP_cloneArms, hvariants, hnames.count, if_pos (List.mem_map_of_mem hvariant)]

/-! ### A wrapper that is shown -/

/-- An enumeration with string values and a variant that is no member. -/
def labelledItem : EnumItem :=
  .ofVariants "Signal" []
    [.ofTexts "Off" none none, .ofTexts "On" (some "\"on\"") none]

/-- The declaration that the enumeration is resolved to. -/
def labelled : Declaration where
  visibility := .inherited
  repr := .i32
  ident := .ofText "Signal"
  fullName := "Signal"
  wrapper := .ofText "Label"
  convertOrdinal := true
  throwOnCastFailure := true
  variants := [.ofText "Off", .ofText "On"]
  members := [⟨.ofText "On", 1, [⟨.string, false, ⟨"\"on\"", .nowhere⟩⟩]⟩]
  types := some [.string]

/-- String literals without escapes, which are equal if their texts are. -/
def labels : Interpretation String where
  denote _ tokens := tokens.text
  same _ first second := first = second
  preset _ := ""
  presetVariant := "Off"

/-- The copy of a constant is obtained, but no wrapper of a variant without a value is. What is
obtained is shown. -/
theorem obtained_wrappers_of_labelled :
    (resolve (.ofSchema .standard) labelledItem "Signal"
        (.ok ⟨.ofText "Label", true, true⟩)).2 = .ok labelled ∧
      labelled.obtained labels [] [.constant "On", .constant "Off", .preset, .clone 0,
        .enter .enumeration (.variant "Off")] = [⟨"On"⟩, ⟨"On"⟩] ∧
      ∀ wrapper ∈ labelled.obtained labels [] [.constant "On", .constant "Off", .preset, .clone 0,
        .enter .enumeration (.variant "Off")],
        ∃ value, labelled.show? labels wrapper = some (.ok value) := by
  have hresolve : (resolve (.ofSchema .standard) labelledItem "Signal"
      (.ok ⟨.ofText "Label", true, true⟩)).2 = .ok labelled := by rfl
  have hdisplay : labelled.displayItems ≠ [] := by simp [displayItems, labelled, ValueType.isString]
  exact ⟨hresolve, by rfl, fun wrapper hwrapper =>
    ((obtained_wrappers_of_resolve hresolve).2.2.1 rfl _ wrapper hwrapper).2 hdisplay⟩

end Declaration

end ValuedEnum
