import ValuedEnum.Proofs.Conversions

/-!
# Round trips

An input that becomes a member comes back as an equal value. A member comes back as the first member
with an equal entry, which is itself unless it is shadowed, and a second round trip changes nothing.
-/

namespace ValuedEnum

open TokenStream Code

namespace Declaration

variable {α : Type} {declaration : Declaration} {slot : Slot} {meaning : Interpretation α}

/-- The values of entries: any variant, and what the literals of the slot denote. -/
inductive EntryValue (meaning : Interpretation α) (repr : IntegerType) (slot : Slot) :
    SlotValue α → Prop
  | variant (name : String) : EntryValue meaning repr slot (.variant name)
  | literal {tokens : TokenStream} (htokens : slot.Literal repr tokens) :
    EntryValue meaning repr slot (.literal (meaning.denote slot tokens))

/-- Every entry of a member has such a value. -/
theorem Readable.entryValue (hreadable : declaration.Readable) (meaning : Interpretation α)
    (hslot : slot ∈ declaration.slots) {member : Member} (hmember : member ∈ declaration.members)
    {entry : Entry} (hentry : member.entry? slot = some entry) :
    EntryValue meaning declaration.repr slot (meaning.ofEntry declaration slot entry) := by
  obtain ⟨fitting, hfitting, hfits⟩ := hreadable.fits hslot hmember
  obtain rfl : fitting = entry := Option.some.inj (hfitting.symm.trans hentry)
  cases fitting with
  | variant ident => exact .variant _
  | ordinal ordinal =>
    cases slot with
    | ordinal => exact .literal (.ordinal ordinal)
    | _ => exact hfits.elim
  | value value =>
    obtain ⟨expr, hexpr⟩ := hreadable.ofExpr_of_entry? hmember hentry
    cases slot with
    | value index type =>
      obtain rfl : value.type = type := hfits
      exact .literal (.value index hexpr)
    | _ => exact hfits.elim

namespace EntryValue

variable {repr : IntegerType} {first second third : SlotValue α}

/-- Equality is reflexive on the values of entries. -/
theorem refl (hmeaning : meaning.Lawful repr) (hfirst : EntryValue meaning repr slot first) :
    meaning.equal slot first first = true := by
  cases hfirst with
  | variant name => simp [Interpretation.equal]
  | literal hfirst => exact hmeaning.refl hfirst

/-- Equality is symmetric on the values of entries. -/
theorem symm (hmeaning : meaning.Lawful repr) (hfirst : EntryValue meaning repr slot first)
    (hsecond : EntryValue meaning repr slot second)
    (h : meaning.equal slot first second = true) : meaning.equal slot second first = true := by
  cases hfirst with
  | variant name =>
    cases hsecond with
    | variant other => simpa [Interpretation.equal, eq_comm] using h
    | literal _ => simp [Interpretation.equal] at h
  | literal hfirst =>
    cases hsecond with
    | variant other => simp [Interpretation.equal] at h
    | literal hsecond => exact hmeaning.symm hfirst hsecond h

/-- Equality is transitive on the values of entries. -/
theorem trans (hmeaning : meaning.Lawful repr) (hfirst : EntryValue meaning repr slot first)
    (hsecond : EntryValue meaning repr slot second) (hthird : EntryValue meaning repr slot third)
    (h : meaning.equal slot first second = true) (h' : meaning.equal slot second third = true) :
    meaning.equal slot first third = true := by
  cases hfirst <;> cases hsecond <;> cases hthird <;>
    simp only [Interpretation.equal, decide_eq_true_eq, Bool.false_eq_true] at h h' ⊢
  · exact h.trans h'
  · exact hmeaning.trans ‹_› ‹_› ‹_› h h'

end EntryValue

/-- Equal values of entries have the same first member. -/
theorem Readable.firstEqual?_congr (hreadable : declaration.Readable)
    (hmeaning : meaning.Lawful declaration.repr) (hslot : slot ∈ declaration.slots)
    {first second : SlotValue α} (hfirst : EntryValue meaning declaration.repr slot first)
    (hsecond : EntryValue meaning declaration.repr slot second)
    (h : meaning.equal slot first second = true) :
    declaration.firstEqual? meaning slot first = declaration.firstEqual? meaning slot second := by
  refine List.find?_congr fun member hmember => ?_
  obtain ⟨entry, hentry, _⟩ := hreadable.fits hslot hmember
  have hvalue := hreadable.entryValue meaning hslot hmember hentry
  have hback := hfirst.symm hmeaning hsecond h
  simp only [holds, hentry, Option.any_some]
  rw [Bool.eq_iff_iff]
  exact ⟨fun hequal => hvalue.trans hmeaning hfirst hsecond hequal h,
    fun hequal => hvalue.trans hmeaning hsecond hfirst hequal hback⟩

/-- What a member is converted to is equal to its own entry. -/
theorem Readable.leave?_holds (hreadable : declaration.Readable)
    (hmeaning : meaning.Lawful declaration.repr) (hslot : slot ∈ declaration.slots)
    {member : Member} (hmember : member ∈ declaration.members) :
    ∃ value, declaration.leave? meaning slot ⟨member.ident.text⟩ = some (.ok value) ∧
      EntryValue meaning declaration.repr slot value ∧
      declaration.holds meaning slot value member = true := by
  obtain ⟨entry, hentry, hleave⟩ := hreadable.leave?_member hmeaning hslot hmember
  have hvalue := hreadable.entryValue meaning hslot hmember hentry
  refine ⟨_, hleave, hvalue, ?_⟩
  simpa only [holds, hentry, Option.any_some] using hvalue.refl hmeaning

/-- What is converted to a member is equal to what that member is converted to. -/
theorem Readable.leave?_firstEqual (hreadable : declaration.Readable)
    (hmeaning : meaning.Lawful declaration.repr) (hslot : slot ∈ declaration.slots)
    {input : SlotValue α} {member : Member}
    (hfirst : declaration.firstEqual? meaning slot input = some member) :
    ∃ value, declaration.leave? meaning slot ⟨member.ident.text⟩ = some (.ok value) ∧
      EntryValue meaning declaration.repr slot value ∧ meaning.equal slot value input = true := by
  have hmember : member ∈ declaration.members := List.mem_of_find?_eq_some hfirst
  obtain ⟨entry, hentry, hleave⟩ := hreadable.leave?_member hmeaning hslot hmember
  have hholds : declaration.holds meaning slot input member = true := List.find?_some hfirst
  simp only [holds, hentry, Option.any_some] at hholds
  exact ⟨_, hleave, hreadable.entryValue meaning hslot hmember hentry, hholds⟩

/-- The first member with an entry that is equal to some entry comes back as itself. -/
theorem Readable.enter?_firstEqual (hreadable : declaration.Readable)
    (hmeaning : meaning.Lawful declaration.repr) (hslot : slot ∈ declaration.slots)
    {value : SlotValue α}
    (hvalue : EntryValue meaning declaration.repr slot value) {first : Member}
    (hfirst : declaration.firstEqual? meaning slot value = some first) :
    ∃ again, declaration.leave? meaning slot ⟨first.ident.text⟩ = some (.ok again) ∧
      declaration.enter? meaning slot again = some (.ok ⟨first.ident.text⟩) := by
  obtain ⟨again, hagain, hentry, hequal⟩ := hreadable.leave?_firstEqual hmeaning hslot hfirst
  refine ⟨again, hagain, ?_⟩
  rw [hreadable.enter?_eq meaning hslot,
    hreadable.firstEqual?_congr hmeaning hslot hentry hvalue hequal, hfirst]

/-- A member comes back as itself unless a member in front of it has an equal entry. -/
theorem Readable.firstEqual?_eq_iff (hreadable : declaration.Readable)
    {front rest : List Member} {member first : Member}
    (hmembers : declaration.members = front ++ member :: rest) {value : SlotValue α}
    (hfirst : declaration.firstEqual? meaning slot value = some first)
    (hholds : declaration.holds meaning slot value member = true) :
    first = member ↔ ∀ earlier ∈ front, declaration.holds meaning slot value earlier = false := by
  rw [firstEqual?, hmembers, List.find?_append, List.find?_cons_of_pos hholds] at hfirst
  cases hfront : front.find? (declaration.holds meaning slot value) with
  | none =>
    simp only [hfront, Option.none_or, Option.some.injEq] at hfirst
    simpa [hfirst.symm] using hfront
  | some earlier =>
    simp only [hfront, Option.some_or, Option.some.injEq] at hfirst
    have hearlier : earlier ∈ front := List.mem_of_find?_eq_some hfront
    -- The names of the members are different, so `member` is not one of those in front of it.
    have hnames := hreadable.names.sublist (List.map_map ▸ hreadable.idents.map Ident.text)
    have hne : earlier ≠ member := by
      rintro rfl
      have hnodup := List.Nodup.of_map _ hnames
      rw [hmembers, List.nodup_append] at hnodup
      exact hnodup.2.2 earlier hearlier earlier List.mem_cons_self rfl
    subst hfirst
    refine iff_of_false hne fun hall => ?_
    have hsome : declaration.holds meaning slot value earlier = true := List.find?_some hfront
    simp [hall earlier hearlier] at hsome

/-- Both conversions of a slot are among the emitted items. -/
theorem conversionItems_subset_items (hslot : slot ∈ declaration.slots) {item : CodeItem}
    (hitem : item ∈ declaration.conversionItems (declaration.conversion slot)) :
    item ∈ declaration.items := by
  have hconversion : item ∈ declaration.conversions.flatMap declaration.conversionItems :=
    List.mem_flatMap.mpr ⟨_, List.mem_map_of_mem hslot, hitem⟩
  simp [items, hconversion]

/-- The meaning of every emitted conversion. A wrapper of a member becomes the member's entry in the
slot, any other one takes the fallback; an input becomes the first member with an equal entry, and
takes the fallback if no entry is equal. So a member that an input becomes has an entry equal to the
input, and a member comes back as itself unless an equal entry stands in front of its own. -/
theorem conversions_of_resolve {host : Host} {item : EnumItem} {fullName : String}
    {options : Except Problem WrapperOptions}
    (hresolve : (resolve host item fullName options).2 = .ok declaration)
    (hhost : host.ReadsLiterals)
    (hnames : (item.variants.map fun variant => variant.ident.text).Nodup)
    (hmeaning : meaning.Lawful declaration.repr) (hslot : slot ∈ declaration.slots) :
    (∀ code ∈ declaration.conversionItems (declaration.conversion slot),
      code ∈ declaration.items) ∧
    (∀ member ∈ declaration.members, slot.FirstIn member.types ∧
      ∃ entry, member.entry? slot = some entry ∧
        declaration.leave? meaning slot ⟨member.ident.text⟩ =
          some (.ok (meaning.ofEntry declaration slot entry))) ∧
    (∀ wrapper : Wrapped,
      (∀ member ∈ declaration.members, member.ident.text ≠ wrapper.variant) →
      declaration.leave? meaning slot wrapper =
        some (declaration.fallback wrapper (meaning.presetOf slot))) ∧
    (∀ input, declaration.enter? meaning slot input =
      match declaration.firstEqual? meaning slot input with
      | some member => some (.ok ⟨member.ident.text⟩)
      | none => some (declaration.fallback input ⟨meaning.presetVariant⟩)) ∧
    (∀ input member, declaration.firstEqual? meaning slot input = some member →
      ∃ value, declaration.leave? meaning slot ⟨member.ident.text⟩ = some (.ok value) ∧
        meaning.equal slot value input = true) ∧
    (∀ front member rest, declaration.members = front ++ member :: rest →
      ∃ value first again,
        declaration.leave? meaning slot ⟨member.ident.text⟩ = some (.ok value) ∧
        declaration.enter? meaning slot value = some (.ok ⟨first.ident.text⟩) ∧
        (first = member ↔
          ∀ earlier ∈ front, declaration.holds meaning slot value earlier = false) ∧
        declaration.leave? meaning slot ⟨first.ident.text⟩ = some (.ok again) ∧
        declaration.enter? meaning slot again = some (.ok ⟨first.ident.text⟩)) := by
  have hreadable := Readable.of_resolve hresolve hhost hnames
  refine ⟨fun code => conversionItems_subset_items hslot, fun member hmember => ⟨?_, ?_⟩,
    fun wrapper hwrapper => ?_, hreadable.enter?_eq meaning hslot,
    fun input member hfirst => ?_,
    fun front member rest hmembers => ?_⟩
  · cases slot with
    | value index type => exact types_of_value_mem_slots hreadable.types hslot member hmember
    | _ => trivial
  · exact hreadable.leave?_member hmeaning hslot hmember
  · have hnone : declaration.memberNamed? wrapper.variant = none :=
      List.find?_eq_none.mpr fun member hmember => by simpa using hwrapper member hmember
    rw [hreadable.leave?_eq meaning hslot, hnone]
  · obtain ⟨value, hleave, _, hequal⟩ :=
      hreadable.leave?_firstEqual hmeaning hslot hfirst
    exact ⟨value, hleave, hequal⟩
  · have hmember : member ∈ declaration.members := by simp [hmembers]
    -- A member's own value is equal to its entry, so some member is found for it. The one that is
    -- found is the first, and converting it once more finds it again.
    obtain ⟨value, hleave, hvalue, hholds⟩ :=
      hreadable.leave?_holds hmeaning hslot hmember
    obtain ⟨first, hfirst⟩ : ∃ first, declaration.firstEqual? meaning slot value = some first :=
      Option.isSome_iff_exists.mp (List.find?_isSome.mpr ⟨member, hmember, hholds⟩)
    obtain ⟨again, hagain, hback⟩ :=
      hreadable.enter?_firstEqual hmeaning hslot hvalue hfirst
    refine ⟨value, first, again, hleave, ?_,
      hreadable.firstEqual?_eq_iff hmembers hfirst hholds, hagain, hback⟩
    rw [hreadable.enter?_eq meaning hslot, hfirst]

/-! ### A shadowed member -/

/-- Two members with one value, written in different bases, and a variant without values. -/
def shadowed : Declaration where
  visibility := .inherited
  repr := .i32
  ident := .ofText "Level"
  fullName := "Level"
  wrapper := .ofText "Number"
  convertOrdinal := true
  throwOnCastFailure := false
  variants := [.ofText "Low", .ofText "Unknown", .ofText "Least"]
  members := [⟨.ofText "Low", 0, [⟨.integer .i32, false, ⟨"16", .nowhere⟩⟩]⟩,
    ⟨.ofText "Least", 2, [⟨.integer .i32, false, ⟨"0x10", .nowhere⟩⟩]⟩]
  types := some [.integer .i32]

/-- The enumeration that is resolved to this declaration. -/
def shadowedItem : EnumItem :=
  .ofVariants "Level" [] [.ofTexts "Low" (some "16") none, .ofTexts "Unknown" none none,
    .ofTexts "Least" (some "0x10") none]

/-- The second of two members with one value is converted to that value, which is converted to the
first one. A variant without a value is converted to the default value. -/
theorem conversions_of_shadowed :
    (resolve (.ofSchema .standard) shadowedItem "Level"
        (.ok ⟨.ofText "Number", true, false⟩)).2 = .ok shadowed ∧
      (shadowedItem.variants.map fun variant => variant.ident.text).Nodup ∧
      (Interpretation.integers "Unknown").Lawful shadowed.repr ∧
      .value 0 (.integer .i32) ∈ shadowed.slots ∧
      shadowed.leave? (.integers "Unknown") (.value 0 (.integer .i32)) ⟨"Least"⟩ =
        some (.ok (.literal 16)) ∧
      shadowed.enter? (.integers "Unknown") (.value 0 (.integer .i32)) (.literal 16) =
        some (.ok ⟨"Low"⟩) ∧
      shadowed.leave? (.integers "Unknown") (.value 0 (.integer .i32)) ⟨"Unknown"⟩ =
        some (.ok (.literal 0)) := by
  have hresolve : (resolve (.ofSchema .standard) shadowedItem "Level"
      (.ok ⟨.ofText "Number", true, false⟩)).2 = .ok shadowed := by rfl
  have hnames : (shadowedItem.variants.map fun variant => variant.ident.text).Nodup := by decide
  have hmeaning := Interpretation.lawful_integers "Unknown" shadowed.repr
  have hslot : .value 0 (.integer .i32) ∈ shadowed.slots := by decide
  obtain ⟨_, hleave, huntagged, henter, _⟩ := conversions_of_resolve hresolve
    (Host.readsLiterals_ofSchema .standard) hnames hmeaning hslot
  refine ⟨hresolve, hnames, hmeaning, hslot, ?_, (henter (.literal 16)).trans (by rfl),
    (huntagged ⟨"Unknown"⟩ (by decide)).trans (by rfl)⟩
  obtain ⟨_, entry, hentry, hleast⟩ := hleave ⟨.ofText "Least", 2, _⟩ (.tail _ (.head _))
  cases hentry
  exact hleast.trans (by rfl)

end Declaration

end ValuedEnum
