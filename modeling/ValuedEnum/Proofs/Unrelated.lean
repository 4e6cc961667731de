import Mathlib.Data.List.Forall2
import ValuedEnum.Proofs.Expansion
import ValuedEnum.Proofs.Positions.Wrapper

/-!
# What makes no difference to a wrapper

A wrapper depends on the visibility and the name of its enumeration, on the variants with their
ordinals, and of the attributes on the first one of each kind that the schema names and on those of
the representation. This file proves that nothing else makes a difference: no other attribute, no
generics, no constraint, and not the positions in the source.
-/

namespace ValuedEnum

/-- Variants that agree in all that a host finds in them. -/
structure Variant.Agrees (schema : Schema) (variant other : Variant) : Prop where
  ident : Alike variant.ident other.ident
  fields : variant.fields.isSome = other.fields.isSome
  discriminant : Alike variant.discriminant other.discriminant
  value : Alike (variant.attributes.find? schema.isValue) (other.attributes.find? schema.isValue)

/-- Enumerations that agree in all that the generator reads of them. -/
structure EnumItem.Agrees (schema : Schema) (item other : EnumItem) : Prop where
  visibility : Alike item.visibility other.visibility
  ident : Alike item.ident other.ident
  wrapper : Alike (item.attributes.find? schema.isWrapper) (other.attributes.find? schema.isWrapper)
  representations : Alike (item.attributes.filter (·.path.isWord "repr"))
    (other.attributes.filter (·.path.isWord "repr"))
  variants : List.Forall₂ (Variant.Agrees schema) item.variants other.variants

namespace Resolution

variable {schema : Schema}

/-- Variants that agree are given the same ordinal. -/
theorem literalInitializer_eq {variant other : Variant} (h : variant.Agrees schema other) :
    Host.literalInitializer variant = Host.literalInitializer other := by
  unfold Host.literalInitializer
  obtain ⟨given, given', hgiven, hgiven', halike⟩ | ⟨hnone, hnone'⟩ := h.discriminant.options
  · have hvalue : Alike given.value given'.value :=
      ⟨congrArg Discriminant.value halike.unplaced_eq⟩
    simp only [hgiven, hgiven', Option.bind_some, ofExpr?_eq hvalue]
  · simp only [hnone, hnone', Option.bind_none]

/-- A step finds alike things in variants that agree. -/
theorem alike_step {variant other : Variant} (h : variant.Agrees schema other) (preset : Int64) :
    Alike (step (.ofSchema schema) variant preset) (step (.ofSchema schema) other preset) := by
  have hfields := h.fields
  have hinitializer := literalInitializer_eq h
  unfold step
  cases hvariant : variant.fields with
  | some fields =>
    cases hother : other.fields with
    | some also => exact ⟨rfl⟩
    | none => simp [hvariant, hother] at hfields
  | none =>
    cases hother : other.fields with
    | some also => simp [hvariant, hother] at hfields
    | none =>
      simp only [Host.ofSchema, hinitializer]
      obtain ⟨attr, attr', hattr, hattr', halike⟩ | ⟨hnone, hnone'⟩ := h.value.options
      · simp only [hattr, hattr', Option.map_some]
        have hident := h.ident
        obtain ⟨values, values', hread, hread', hvalues⟩ | ⟨fault, fault', hread, hread', hfault⟩ :=
          (Host.alike_attributeValues halike).results
        · simp only [hread, hread']
          infer_instance
        · simp only [hread, hread']
          infer_instance
      · simp only [hnone, hnone', Option.map_none]
        exact ⟨rfl⟩

/-- Variants that agree have alike members up to the same fault. -/
theorem alike_ofVariants {variants others : List Variant}
    (h : List.Forall₂ (Variant.Agrees schema) variants others) (ordinal : Int64) :
    Alike (ofVariants (.ofSchema schema) variants ordinal)
      (ofVariants (.ofSchema schema) others ordinal) := by
  induction h generalizing ordinal with
  | nil => exact ⟨rfl⟩
  | @cons variant other rest others hvariant _ ih =>
    rw [ofVariants, ofVariants]
    obtain ⟨_, hstep, hstep'⟩ | ⟨member, member', hstep, hstep', hmember⟩ |
      ⟨fault, fault', hstep, hstep', hfault⟩ := (alike_step hvariant ordinal).steps
    · simp only [hstep, hstep']
      exact ih _
    · simp only [hstep, hstep', hmember.congr Member.ordinal fun _ => rfl]
      have hrest := ih (member'.ordinal + 1)
      have hmembers := hrest.map Resolution.members fun _ => rfl
      have hfault := hrest.map Resolution.fault fun _ => rfl
      exact inferInstanceAs (Alike (⟨member :: _, _⟩ : Resolution) ⟨member' :: _, _⟩)
    · simp only [hstep, hstep']
      exact inferInstanceAs (Alike (⟨[], some fault⟩ : Resolution) ⟨[], some fault'⟩)

end Resolution

namespace Declaration

variable {schema : Schema} {item other : EnumItem} (h : item.Agrees schema other)
include h

/-- Enumerations that agree have variants, or neither has any. -/
theorem isEmpty_eq : item.variants.isEmpty = other.variants.isEmpty := by
  have hvariants := h.variants
  generalize item.variants = variants, other.variants = others at hvariants
  cases hvariants <;> rfl

/-- Enumerations that agree have variants of the same names. -/
theorem alike_idents :
    Alike (item.variants.map Variant.ident) (other.variants.map Variant.ident) := by
  have hvariants := h.variants
  generalize item.variants = variants, other.variants = others at hvariants
  induction hvariants with
  | nil => exact ⟨rfl⟩
  | cons hvariant _ ih =>
    have hident := hvariant.ident
    rw [List.map_cons, List.map_cons]
    infer_instance

/-- Enumerations that agree have alike declarations with alike members. -/
theorem alike_ofResolution (fullName : String) {options options' : WrapperOptions}
    (hoptions : Alike options options') (repr : IntegerType) {members members' : List Member}
    (hmembers : Alike members members') :
    Alike (ofResolution item fullName options repr members)
      (ofResolution other fullName options' repr members') := by
  have hname := hoptions.map WrapperOptions.name fun _ => rfl
  have hordinal := hoptions.congr WrapperOptions.convertOrdinal fun _ => rfl
  have hthrow := hoptions.congr WrapperOptions.throwOnCastFailure fun _ => rfl
  refine ⟨?_⟩
  change (⟨unplaced item.visibility, repr, unplaced item.ident, fullName, unplaced options.name,
      options.convertOrdinal, options.throwOnCastFailure,
      unplaced (item.variants.map Variant.ident), unplaced members, commonTypes? members⟩ :
        Declaration) =
    ⟨unplaced other.visibility, repr, unplaced other.ident, fullName, unplaced options'.name,
      options'.convertOrdinal, options'.throwOnCastFailure,
      unplaced (other.variants.map Variant.ident), unplaced members', commonTypes? members'⟩
  rw [h.visibility.unplaced_eq, h.ident.unplaced_eq, hname.unplaced_eq, hordinal, hthrow,
    (alike_idents h).unplaced_eq, hmembers.unplaced_eq, commonTypes?_eq hmembers]

/-- Enumerations that agree have alike declarations, or the same is wrong with them. -/
theorem alike_resolve (fullName : String) {options options' : Except Problem WrapperOptions}
    (hoptions : Alike options options') :
    Alike (resolve (.ofSchema schema) item fullName options).2
      (resolve (.ofSchema schema) other fullName options').2 := by
  obtain ⟨wrapper, wrapper', rfl, rfl, hwrapper⟩ | ⟨problem, problem', rfl, rfl, hproblem⟩ :=
    hoptions.results
  · unfold resolve
    simp only [isEmpty_eq h]
    split
    · exact ⟨rfl⟩
    -- Only the attributes for the representation are looked at, and these are alike.
    · rw [← representation_filter item.attributes, ← representation_filter other.attributes]
      obtain ⟨repr, _, hrepr, hrepr', hsame⟩ | ⟨fault, fault', hrepr, hrepr', hfault⟩ :=
        (alike_representation h.representations).results
      · obtain rfl := hsame.eq
        have hresolution := Resolution.alike_ofVariants h.variants 0
        have hmembers := hresolution.map Resolution.members fun _ => rfl
        have hfault := hresolution.map Resolution.fault fun _ => rfl
        simp only [hrepr, hrepr']
        obtain ⟨fault, fault', hfound, hfound', halike⟩ | ⟨hnone, hnone'⟩ := hfault.options
        · simp only [hfound, hfound']
          exact alike_fault halike
        · simp only [hnone, hnone']
          have hdeclaration := alike_ofResolution h fullName hwrapper repr hmembers
          exact ⟨congrArg Except.ok hdeclaration.unplaced_eq⟩
      · simp only [hrepr, hrepr']
        exact alike_fault inferInstance
  · exact alike_fault inferInstance

end Declaration

/-- Outcomes of two enumerations with the same wrapper behind them, or with the same fault. -/
def Outcome.Matches (front front' : TokenStream) : Outcome → Outcome → Prop
  | .ok unit, .ok unit' =>
    unit.name = unit'.name ∧ ∃ wrapper wrapper', unit.tokens = front ++ wrapper ∧
      unit'.tokens = front' ++ wrapper' ∧ Alike wrapper wrapper' ∧ wrapper.text = wrapper'.text
  | .error diagnostic, .error diagnostic' =>
    diagnostic.declaration = diagnostic'.declaration ∧
      diagnostic.fault.message = diagnostic'.fault.message
  | _, _ => False

namespace Found

/-- Under the same name, enumerations that agree have outcomes that match. -/
theorem outcome_matches {schema : Schema} {item other : EnumItem} (h : item.Agrees schema other)
    (fullName : String) {options options' : Except Problem WrapperOptions}
    (hoptions : Alike options options') :
    Outcome.Matches (schema.strip item).tokens (schema.strip other).tokens
      (Found.outcome (.ofSchema schema) ⟨fullName, item, options⟩)
      (Found.outcome (.ofSchema schema) ⟨fullName, other, options'⟩) := by
  unfold outcome resolve
  obtain ⟨declaration, declaration', hresolve, hresolve', halike⟩ |
    ⟨fault, fault', hresolve, hresolve', hfault⟩ :=
      (Declaration.alike_resolve h fullName hoptions).results
  · simp only [hresolve, hresolve']
    have htokens : Alike declaration.tokens declaration'.tokens := inferInstance
    have hname := halike.congr Declaration.unitName fun _ => rfl
    exact ⟨hname, _, _, rfl, rfl, htokens, htokens.printed_eq⟩
  · simp only [hresolve, hresolve']
    exact ⟨rfl, hfault.message_eq⟩

end Found

/-- Enumerations in the same modules that agree have outcomes that match, whatever else is around
them. -/
theorem Host.outcomes_of_agrees {schema : Schema} {item other : EnumItem}
    (h : item.Agrees schema other) (hwrapped : (item.attributes.any schema.isWrapper) = true)
    {place place' : Item.Place} (hmodules : place.modules = place'.modules) :
    ∃ before after whole before' after' whole' outcome outcome',
      (Host.ofSchema schema).generate place.front = .ok before ∧
      (Host.ofSchema schema).generate place.back = .ok after ∧
      (Host.ofSchema schema).generate (place.fill (.enumeration item)) = .ok whole ∧
      whole.outcomes = before.outcomes ++ outcome :: after.outcomes ∧
      (Host.ofSchema schema).generate place'.front = .ok before' ∧
      (Host.ofSchema schema).generate place'.back = .ok after' ∧
      (Host.ofSchema schema).generate (place'.fill (.enumeration other)) = .ok whole' ∧
      whole'.outcomes = before'.outcomes ++ outcome' :: after'.outcomes ∧
      Outcome.Matches (schema.strip item).tokens (schema.strip other).tokens outcome outcome' := by
  -- Both have a first wrapper attribute, and it asks for the same; neither would contradict that
  -- the first one is annotated.
  obtain ⟨attr, attr', hattr, hattr', halike⟩ | ⟨hnone, _⟩ := h.wrapper.options
  · have hoptions : Alike (attributeArguments attr WrapperOptions.ofTokens)
        (attributeArguments attr' WrapperOptions.ofTokens) :=
      alike_attributeArguments halike fun hscope htokens =>
        WrapperOptions.alike_ofTokens hscope htokens
    have hitem : (Host.ofSchema schema).wrapperOptions item =
        .ok (some (attributeArguments attr WrapperOptions.ofTokens)) := by
      simp only [ofSchema, hattr, Option.map_some]
    have hother : (Host.ofSchema schema).wrapperOptions other =
        .ok (some (attributeArguments attr' WrapperOptions.ofTokens)) := by
      simp only [ofSchema, hattr', Option.map_some]
    obtain ⟨before, after, whole, hbefore, hafter, hwhole, hsplit⟩ :=
      generate_fill (answers_ofSchema schema) place hitem
    obtain ⟨before', after', whole', hbefore', hafter', hwhole', hsplit'⟩ :=
      generate_fill (answers_ofSchema schema) place' hother
    refine ⟨before, after, whole, before', after', whole', _, _, hbefore, hafter, hwhole, hsplit,
      hbefore', hafter', hwhole', hsplit', ?_⟩
    rw [hmodules, h.ident.text_eq]
    exact Found.outcome_matches h _ hoptions
  · obtain ⟨attr, hmem, hattr⟩ := List.any_eq_true.mp hwrapped
    exact absurd hattr (List.find?_eq_none.mp hnone attr hmem)

/-! ### Two enumerations that agree -/

open TokenStream in
/-- An enumeration with nothing but what makes its wrapper. -/
def bareLevels : EnumItem :=
  .ofVariants "Level"
    [.ofTokens "enum_with_values" (word "Number"), .ofTokens "repr" (word "u8")]
    [.ofTexts "Low" (some "16") none, .ofTexts "High" (some "32") none]

/-- Where the decorated enumeration stands. -/
def elsewhere : Span := ⟨⟨7, 4⟩, ⟨7, 9⟩⟩

open TokenStream in
/-- The enumeration with generics, at another position, and with more attributes on it and on its
variants. -/
def decoratedLevels : EnumItem where
  attributes :=
    [.ofTokens "derive" (word "Debug"), .ofTokens "enum_with_values" (word "Number"),
      .ofTokens "enum_with_values" (word "Other"), .ofTokens "repr" (word "u8"),
      .ofTokens "cfg" (word "test")]
  visibility := .inherited
  ident := ⟨"Level", elsewhere⟩
  generics := angled (word "T")
  constraints := word "where" ++ word "T" ++ sign ":" ++ word "Copy"
  braces := elsewhere
  variants :=
    [{ Variant.ofTexts "Low" (some "16") none with attributes :=
        [.ofTokens "cfg" (word "test"), .ofTokens "value" [.literal "16" elsewhere],
          .ofTokens "value" (word "x")] },
      .ofTexts "High" (some "32") none]
  trailing := true

/-- A module with nothing else in it. -/
def bareModule : Item.Place := .inModule [] (.ofText "a") (.among [] []) []

/-- A module of the same name with other items in it and around it. -/
def decoratedModule : Item.Place :=
  .inModule [.other] (.ofText "a") (.among [.other] [.enumeration (.ofVariants "Other" [] [])]) []

/-- The decorations make no difference to the wrapper. -/
theorem outcomes_of_decoratedLevels :
    bareLevels.Agrees .standard decoratedLevels ∧
      bareLevels.attributes.any Schema.standard.isWrapper = true ∧
      bareModule.modules = decoratedModule.modules ∧
      ∃ whole whole' unit unit',
        (Host.ofSchema .standard).generate (bareModule.fill (.enumeration bareLevels)) =
          .ok whole ∧
        whole.outcomes = [.ok unit] ∧
        (Host.ofSchema .standard).generate (decoratedModule.fill (.enumeration decoratedLevels)) =
          .ok whole' ∧
        whole'.outcomes = [.ok unit'] ∧
        Outcome.Matches (Schema.standard.strip bareLevels).tokens
          (Schema.standard.strip decoratedLevels).tokens (.ok unit) (.ok unit') := by
  have hagrees : bareLevels.Agrees .standard decoratedLevels :=
    ⟨⟨rfl⟩, ⟨rfl⟩, ⟨rfl⟩, ⟨rfl⟩,
      .cons ⟨⟨rfl⟩, rfl, ⟨rfl⟩, ⟨rfl⟩⟩ (.cons ⟨⟨rfl⟩, rfl, ⟨rfl⟩, ⟨rfl⟩⟩ .nil)⟩
  have hwrapped : bareLevels.attributes.any Schema.standard.isWrapper = true := by decide
  have hmodules : bareModule.modules = decoratedModule.modules := rfl
  obtain ⟨before, after, whole, before', after', whole', outcome, outcome', hbefore, hafter, hwhole,
    hsplit, hbefore', hafter', hwhole', hsplit', hmatch⟩ :=
      Host.outcomes_of_agrees hagrees hwrapped hmodules
  cases hbefore
  cases hafter
  cases hbefore'
  cases hafter'
  have hfirst : ∃ unit, outcome = .ok unit := by
    cases hwhole
    cases hsplit
    exact ⟨_, rfl⟩
  obtain ⟨unit, rfl⟩ := hfirst
  cases outcome' with
  | ok unit' =>
    exact ⟨hagrees, hwrapped, hmodules, whole, whole', unit, unit', hwhole, hsplit, hwhole',
      hsplit', hmatch⟩
  | error diagnostic => exact absurd hmatch id

end ValuedEnum
