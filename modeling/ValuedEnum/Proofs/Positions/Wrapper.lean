import ValuedEnum.Proofs.Positions.Declaration
import ValuedEnum.Wrapper.Code

/-!
# Wrappers and positions

The code of a wrapper has the words and values of its declaration where they stand, and nothing else
of the source. Alike declarations have alike code.
-/

namespace ValuedEnum

open TokenStream Code

/-! ### Parts of a declaration -/

/-- Alike identifiers are alike without the marks of raw identifiers. -/
theorem Alike.bare_eq {ident other : Ident} (h : Alike ident other) : ident.bare = other.bare := by
  rw [Ident.bare, Ident.bare, h.text_eq]

instance (ident other : Ident) [h : Alike ident other] : Alike (name ident) (name other) :=
  inferInstanceAs (Alike [TokenTree.ident ident] [TokenTree.ident other])

section

variable (value other : Value) [h : Alike value other]

/-- Alike values have one type. -/
theorem Alike.type_eq {value other : Value} (h : Alike value other) : value.type = other.type :=
  h.congr Value.type fun _ => rfl

instance : Alike value.pattern other.pattern := by
  have hnegative := h.congr Value.negative fun _ => rfl
  have hlit := h.map Value.lit fun _ => rfl
  unfold Value.pattern
  rw [hnegative]
  infer_instance

instance : Alike value.tokens other.tokens := by
  unfold Value.tokens
  rw [h.type_eq]
  split <;> infer_instance

end

namespace Path

instance (first second : Span) : Alike (colons first) (colons second) := ⟨rfl⟩

instance (rest others : List Ident) [h : Alike rest others] :
    Alike (restTokens rest) (restTokens others) := by
  induction h using Alike.induction with
  | nil => infer_instance
  | cons ident other rest others hident _ ih =>
    rw [restTokens, restTokens]
    infer_instance

/-- A path has the same words wherever it stands. -/
instance (path other : Path) [h : Alike path other] : Alike path.tokens other.tokens := by
  have hleading := h.map Path.leading fun _ => rfl
  have hfirst := h.map Path.first fun _ => rfl
  have hrest := h.map Path.rest fun _ => rfl
  unfold Path.tokens
  infer_instance

end Path

instance (visibility other : Visibility) [h : Alike visibility other] :
    Alike visibility.tokens other.tokens := by
  have heq := h.unplaced_eq
  cases visibility with
  | inherited =>
    cases other with
    | inherited => infer_instance
    | _ => simp [unplaced] at heq
  | anywhere =>
    cases other with
    | anywhere => infer_instance
    | _ => simp [unplaced] at heq
  | inside marked path =>
    cases other with
    | inside also another =>
      obtain ⟨rfl, hpath⟩ := Visibility.inside.inj heq
      have hpath : Alike path another := ⟨hpath⟩
      unfold Visibility.tokens
      infer_instance
    | _ => simp [unplaced] at heq

instance : Located CodeItem where
  unplaced
    | .type tokens => .type (unplaced tokens)
    | .inherent target body => .inherent (unplaced target) (unplaced body)
    | .implementation borrows interface target body =>
      .implementation borrows (unplaced interface) (unplaced target) (unplaced body)

instance (tokens others : TokenStream) [h : Alike tokens others] :
    Alike (CodeItem.type tokens) (.type others) :=
  ⟨congrArg CodeItem.type h.unplaced_eq⟩

instance (target target' body body' : TokenStream) [h : Alike target target']
    [hbody : Alike body body'] :
    Alike (CodeItem.inherent target body) (.inherent target' body') := by
  refine ⟨?_⟩
  change CodeItem.inherent (unplaced target) (unplaced body) =
    .inherent (unplaced target') (unplaced body')
  rw [h.unplaced_eq, hbody.unplaced_eq]

instance (borrows : Bool) (interface interface' target target' body body' : TokenStream)
    [hinterface : Alike interface interface'] [h : Alike target target']
    [hbody : Alike body body'] :
    Alike (CodeItem.implementation borrows interface target body)
      (.implementation borrows interface' target' body') := by
  refine ⟨?_⟩
  change CodeItem.implementation borrows (unplaced interface) (unplaced target) (unplaced body) =
    .implementation borrows (unplaced interface') (unplaced target') (unplaced body')
  rw [hinterface.unplaced_eq, h.unplaced_eq, hbody.unplaced_eq]

instance (item other : CodeItem) [h : Alike item other] : Alike item.tokens other.tokens := by
  have heq := h.unplaced_eq
  cases item with
  | type tokens =>
    cases other with
    | type others => exact ⟨CodeItem.type.inj heq⟩
    | _ => simp [unplaced] at heq
  | inherent target body =>
    cases other with
    | inherent target' body' =>
      have htarget : Alike target target' := ⟨(CodeItem.inherent.inj heq).1⟩
      have hbody : Alike body body' := ⟨(CodeItem.inherent.inj heq).2⟩
      unfold CodeItem.tokens
      infer_instance
    | _ => simp [unplaced] at heq
  | implementation borrows interface target body =>
    cases other with
    | implementation borrows' interface' target' body' =>
      obtain ⟨rfl, hinterface, htarget, hbody⟩ := CodeItem.implementation.inj heq
      have hinterface : Alike interface interface' := ⟨hinterface⟩
      have htarget : Alike target target' := ⟨htarget⟩
      have hbody : Alike body body' := ⟨hbody⟩
      unfold CodeItem.tokens
      infer_instance
    | _ => simp [unplaced] at heq

/-! ### Phrases of the generated language -/

instance (parts others : List TokenStream) [h : Alike parts others] :
    Alike (commas parts) (commas others) := by
  induction h using Alike.induction with
  | nil => infer_instance
  | cons part other rest others hpart hrest ih =>
    obtain ⟨_, _, _, _, rfl, rfl, _, _⟩ | ⟨rfl, rfl⟩ := hrest.lists
    · exact inferInstanceAs (Alike (part ++ sign "," ++ commas _) (other ++ sign "," ++ commas _))
    · exact hpart

section

variable (first second third fourth : TokenStream) [h : Alike first second]
  [hrest : Alike third fourth]

instance : Alike (call first third) (call second fourth) := by unfold call; infer_instance

instance : Alike (matching first third) (matching second fourth) := by
  unfold matching; infer_instance

instance : Alike (accepted first) (accepted second) := by unfold accepted; infer_instance

instance : Alike (refused first) (refused second) := by unfold refused; infer_instance

instance (name : TokenStream) {body other : TokenStream} [hbody : Alike body other] :
    Alike (function name first third body) (function name second fourth other) := by
  unfold function; infer_instance

instance : Alike (Declaration.formatting first) (Declaration.formatting second) := by
  unfold Declaration.formatting; infer_instance

instance : Alike (Declaration.writeStr first) (Declaration.writeStr second) := by
  unfold Declaration.writeStr; infer_instance

end

/-! ### Arms -/

instance : Located Entry where
  unplaced
    | .ordinal ordinal => .ordinal ordinal
    | .variant ident => .variant (unplaced ident)
    | .value value => .value (unplaced value)

instance : Located ArmResult where
  unplaced
    | .entry entry => .entry (unplaced entry)
    | .constant ident => .constant (unplaced ident)

instance : Located Arm := ⟨fun arm => ⟨unplaced arm.accepts, arm.guarded, unplaced arm.result⟩⟩

instance : Located Conversion := ⟨fun conversion =>
  ⟨conversion.slot, unplaced conversion.outgoing, unplaced conversion.incoming⟩⟩

instance (ident other : Ident) [h : Alike ident other] :
    Alike (Entry.variant ident) (.variant other) := ⟨congrArg Entry.variant h.unplaced_eq⟩

instance (entry other : Entry) [h : Alike entry other] :
    Alike (ArmResult.entry entry) (.entry other) := ⟨congrArg ArmResult.entry h.unplaced_eq⟩

instance (ident other : Ident) [h : Alike ident other] :
    Alike (ArmResult.constant ident) (.constant other) :=
  ⟨congrArg ArmResult.constant h.unplaced_eq⟩

instance (accepts also : Entry) (guarded : Bool) (result other : ArmResult)
    [haccepts : Alike accepts also] [hresult : Alike result other] :
    Alike (⟨accepts, guarded, result⟩ : Arm) ⟨also, guarded, other⟩ := by
  refine ⟨?_⟩
  change (⟨unplaced accepts, guarded, unplaced result⟩ : Arm) =
    ⟨unplaced also, guarded, unplaced other⟩
  rw [haccepts.unplaced_eq, hresult.unplaced_eq]

instance (slot : Slot) (outgoing outgoing' incoming incoming' : List Arm)
    [houtgoing : Alike outgoing outgoing'] [hincoming : Alike incoming incoming'] :
    Alike (⟨slot, outgoing, incoming⟩ : Conversion) ⟨slot, outgoing', incoming'⟩ := by
  refine ⟨?_⟩
  change (⟨slot, unplaced outgoing, unplaced incoming⟩ : Conversion) =
    ⟨slot, unplaced outgoing', unplaced incoming'⟩
  rw [houtgoing.unplaced_eq, hincoming.unplaced_eq]

/-- Alike entries are of the same kind. -/
theorem Alike.entries {entry other : Entry} (h : Alike entry other) :
    (∃ ordinal, entry = .ordinal ordinal ∧ other = .ordinal ordinal) ∨
      (∃ ident also, entry = .variant ident ∧ other = .variant also ∧ Alike ident also) ∨
      ∃ value also, entry = .value value ∧ other = .value also ∧ Alike value also := by
  have heq := h.unplaced_eq
  cases entry with
  | ordinal ordinal =>
    cases other with
    | ordinal also => exact .inl ⟨ordinal, rfl, by rw [Entry.ordinal.inj heq]⟩
    | _ => simp [unplaced] at heq
  | variant ident =>
    cases other with
    | variant also => exact .inr (.inl ⟨ident, also, rfl, rfl, ⟨Entry.variant.inj heq⟩⟩)
    | _ => simp [unplaced] at heq
  | value value =>
    cases other with
    | value also => exact .inr (.inr ⟨value, also, rfl, rfl, ⟨Entry.value.inj heq⟩⟩)
    | _ => simp [unplaced] at heq

/-- A member is alike things in each slot. -/
instance (slot : Slot) (member other : Member) [h : Alike member other] :
    Alike (member.entry? slot) (other.entry? slot) := by
  refine h.map (Member.entry? · slot) fun member => ?_
  cases slot with
  | value index type =>
    change (unplaced member.values)[index]?.map Entry.value =
      unplaced (member.values[index]?.map Entry.value)
    rw [unplaced_list, List.getElem?_map]
    cases member.values[index]? <;> rfl
  | _ => rfl

/-! ### Items of a wrapper -/

namespace Declaration

variable (declaration other : Declaration) [h : Alike declaration other]

instance : Alike declaration.visibility other.visibility := h.map Declaration.visibility fun _ => rfl

instance : Alike declaration.ident other.ident := h.map Declaration.ident fun _ => rfl

instance : Alike declaration.wrapper other.wrapper := h.map Declaration.wrapper fun _ => rfl

instance : Alike declaration.variants other.variants := h.map Declaration.variants fun _ => rfl

instance : Alike declaration.members other.members := h.map Declaration.members fun _ => rfl

/-- Alike declarations have one representation. -/
theorem repr_congr : declaration.repr = other.repr := h.congr Declaration.repr fun _ => rfl

/-- The conversions of alike declarations may fail, or neither may. -/
theorem throwOnCastFailure_congr : declaration.throwOnCastFailure = other.throwOnCastFailure :=
  h.congr Declaration.throwOnCastFailure fun _ => rfl

instance : Alike declaration.throwOnCastFailure other.throwOnCastFailure :=
  h.map Declaration.throwOnCastFailure fun _ => rfl

/-- Alike declarations have values of the same types. -/
theorem types_congr : declaration.types = other.types := h.congr Declaration.types fun _ => rfl

/-- Alike declarations have the same slots. -/
theorem slots_congr : declaration.slots = other.slots := h.congr Declaration.slots fun _ => rfl

instance (member also : Member) [hmember : Alike member also] : Alike member.ident also.ident :=
  hmember.map Member.ident fun _ => rfl

instance : Alike declaration.vis other.vis := by unfold vis; infer_instance

instance (ident also : Ident) [hident : Alike ident also] :
    Alike (declaration.variantTokens ident) (other.variantTokens also) := by
  unfold variantTokens
  infer_instance

instance : Alike declaration.ordinalsName other.ordinalsName := by
  have hwrapper : Alike declaration.wrapper other.wrapper := inferInstance
  rw [ordinalsName, ordinalsName, hwrapper.bare_eq]
  infer_instance

instance (member also : Member) [hmember : Alike member also] :
    Alike (declaration.wrapperConstant member) (other.wrapperConstant also) := by
  unfold wrapperConstant
  infer_instance

instance (member also : Member) [hmember : Alike member also] :
    Alike (declaration.ordinalConstant member) (other.ordinalConstant also) := by
  unfold ordinalConstant
  infer_instance

instance : Alike declaration.wrapperType other.wrapperType := by
  unfold wrapperType
  infer_instance

instance : Alike declaration.wrapperBody other.wrapperBody := by
  unfold wrapperBody
  infer_instance

instance : Alike declaration.ordinalsType other.ordinalsType := by
  unfold ordinalsType
  infer_instance

instance : Alike declaration.ordinalsBody other.ordinalsBody := by
  unfold ordinalsBody
  infer_instance

instance (interface body body' : TokenStream) [hbody : Alike body body'] :
    Alike (declaration.implement interface body) (other.implement interface body') := by
  unfold implement
  infer_instance

instance : Alike declaration.defaultItems other.defaultItems := by
  unfold defaultItems
  infer_instance

instance : Alike declaration.equalityItems other.equalityItems := by
  unfold equalityItems
  infer_instance

instance (ident also : Ident) [hident : Alike ident also] :
    Alike (declaration.cloneArm ident) (other.cloneArm also) := by
  unfold cloneArm
  infer_instance

instance (ident also : Ident) [hident : Alike ident also] :
    Alike (declaration.debugArm ident) (other.debugArm also) := by
  have hwrapper : Alike declaration.wrapper other.wrapper := inferInstance
  have henum : Alike declaration.ident other.ident := inferInstance
  unfold debugArm debugText
  rw [hwrapper.text_eq, henum.text_eq, hident.text_eq]
  infer_instance

instance : Alike declaration.cloneItem other.cloneItem := by
  unfold cloneItem
  infer_instance

instance : Alike declaration.debugItem other.debugItem := by
  unfold debugItem
  infer_instance

/-! ### Conversions -/

instance (entry also : Entry) [hentry : Alike entry also] :
    Alike (declaration.entryTokens entry) (other.entryTokens also) := by
  unfold entryTokens
  rw [repr_congr declaration other]
  obtain ⟨_, rfl, rfl⟩ | ⟨_, _, rfl, rfl, _⟩ | ⟨_, _, rfl, rfl, _⟩ := hentry.entries
  · infer_instance
  · infer_instance
  · infer_instance

instance (entry also : Entry) [hentry : Alike entry also] :
    Alike (declaration.patternTokens entry) (other.patternTokens also) := by
  unfold patternTokens
  obtain ⟨_, rfl, rfl⟩ | ⟨_, _, rfl, rfl, _⟩ | ⟨_, _, rfl, rfl, _⟩ := hentry.entries
  · infer_instance
  · infer_instance
  · infer_instance

instance (result also : ArmResult) [hresult : Alike result also] :
    Alike (declaration.resultTokens result) (other.resultTokens also) := by
  have heq := hresult.unplaced_eq
  cases result with
  | entry entry =>
    cases also with
    | entry further =>
      have hentry : Alike entry further := ⟨ArmResult.entry.inj heq⟩
      unfold resultTokens
      infer_instance
    | constant ident => simp [unplaced] at heq
  | constant ident =>
    cases also with
    | entry further => simp [unplaced] at heq
    | constant another =>
      have hident : Alike ident another := ⟨ArmResult.constant.inj heq⟩
      unfold resultTokens
      infer_instance

instance (arm also : Arm) [harm : Alike arm also] :
    Alike (declaration.armTokens arm) (other.armTokens also) := by
  have hguarded := harm.congr Arm.guarded fun _ => rfl
  have haccepts := harm.map Arm.accepts fun _ => rfl
  have hresult := harm.map Arm.result fun _ => rfl
  unfold armTokens
  rw [hguarded]
  infer_instance

instance : Alike declaration.fallbackArm other.fallbackArm := by
  unfold fallbackArm
  infer_instance

instance (slot : Slot) : Alike (declaration.outputType slot) (other.outputType slot) := by
  unfold outputType
  rw [repr_congr declaration other]
  split <;> infer_instance

instance (slot : Slot) : Alike (declaration.inputType slot) (other.inputType slot) := by
  unfold inputType
  rw [repr_congr declaration other]
  split <;> infer_instance

section

variable (source source' target target' : TokenStream) [hsource : Alike source source']
  [htarget : Alike target target']

instance : Alike (declaration.conversionTrait source) (other.conversionTrait source') := by
  unfold conversionTrait
  rw [throwOnCastFailure_congr declaration other]
  infer_instance

instance : Alike (declaration.converting target source) (other.converting target' source') := by
  unfold converting
  rw [throwOnCastFailure_congr declaration other]
  infer_instance

instance (borrows : Bool) (input : TokenStream) (arms arms' : List Arm) [harms : Alike arms arms'] :
    Alike (declaration.conversionItem borrows source target input arms)
      (other.conversionItem borrows source' target' input arms') := by
  unfold conversionItem
  infer_instance

end

instance (conversion also : Conversion) [hconversion : Alike conversion also] :
    Alike (declaration.conversionItems conversion) (other.conversionItems also) := by
  have hslot := hconversion.congr Conversion.slot fun _ => rfl
  have houtgoing := hconversion.map Conversion.outgoing fun _ => rfl
  have hincoming := hconversion.map Conversion.incoming fun _ => rfl
  unfold conversionItems
  rw [hslot]
  infer_instance

instance (slot : Slot) : Alike (declaration.conversion slot) (other.conversion slot) := by
  unfold conversion
  infer_instance

instance : Alike declaration.conversions other.conversions := by
  unfold conversions
  rw [slots_congr declaration other]
  induction other.slots with
  | nil => exact ⟨rfl⟩
  | cons slot rest ih =>
    rw [List.map_cons, List.map_cons]
    infer_instance

instance : Alike declaration.displayItems other.displayItems := by
  unfold displayItems
  rw [types_congr declaration other]
  infer_instance

/-! ### All items -/

instance : Alike declaration.items other.items := by
  unfold items
  infer_instance

/-- Alike declarations have the same code but for positions. -/
instance : Alike declaration.tokens other.tokens := by
  unfold tokens
  infer_instance

end Declaration

end ValuedEnum
