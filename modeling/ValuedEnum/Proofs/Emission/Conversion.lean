import ValuedEnum.Proofs.Emission.Wrapper
import ValuedEnum.Proofs.Slots

/-!
# Running an emitted conversion

The two implementations of a slot are read from their tokens: whether they may fail, what they
match on, and their arms. Running one tries the arms in order. The main equations say what comes
out of a wrapper and what an input of the slot's type goes into.
-/

namespace ValuedEnum

open TokenStream Code

/-- A conversion as it is written. -/
structure WrittenConversion where
  fallible : Bool
  /-- Whether it is the variant inside of a wrapper that is matched. -/
  inside : Bool
  arms : List WrittenArm

namespace WrittenConversion

/-- Whether the trait of a conversion is the one whose conversions may fail. -/
def fallible? (interface : TokenStream) : Option Bool :=
  if interface.readPath.1 = ["core", "convert", "TryFrom"] then some true
  else if interface.readPath.1 = ["core", "convert", "From"] then some false
  else none

/-- The conversion that an implementation holds: its function matches on the parameter `value`. -/
def ofItem? : CodeItem → Option WrittenConversion
  | .implementation borrows interface target body =>
    match fallible? interface, WrittenMatch.ofTokens?
        (CodeItem.implementation borrows interface target body).functionBody with
    | some fallible, some ⟨"value", inside, arms⟩ => some ⟨fallible, inside, arms⟩
    | _, _ => none
  | _ => none

/-- Runs a conversion on the parameter `value`, given which patterns accept what is matched. -/
def run? {ε τ : Type} (conversion : WrittenConversion) (accepts : TokenStream → Bool) (value : ε)
    (preset : Option τ) (read : TokenStream → Option τ) : Option (Except ε τ) :=
  (conversion.arms.find? fun arm => accepts arm.pattern).bind fun arm =>
    WrittenArm.result? conversion.fallible value preset read arm.result

end WrittenConversion

namespace Declaration

variable {α : Type} (declaration : Declaration) (meaning : Interpretation α)

/-- The conversion of a wrapper to a slot's type, as it is emitted. -/
def leaving? (slot : Slot) : Option WrittenConversion :=
  (declaration.conversionItems (declaration.conversion slot))[0]?.bind WrittenConversion.ofItem?

/-- The conversion of a slot's type to the wrapper, as it is emitted. -/
def entering? (slot : Slot) : Option WrittenConversion :=
  (declaration.conversionItems (declaration.conversion slot))[1]?.bind WrittenConversion.ofItem?

/-- What a wrapper is converted to. A conversion that fails returns the wrapper. -/
def leave? (slot : Slot) (wrapper : Wrapped) : Option (Except Wrapped (SlotValue α)) :=
  match declaration.leaving? slot with
  | some conversion =>
    if conversion.inside then
      conversion.run?
        (WrittenArm.accepts meaning declaration.ident.text .enumeration ·
          (.variant wrapper.variant))
        wrapper (some (meaning.presetOf slot)) (meaning.value? declaration.ident.text slot)
    else none
  | none => none

/-- What a value of a slot's type is converted to. A conversion that fails returns the value; one
that succeeds returns a constant of the wrapper, or the default wrapper. -/
def enter? (slot : Slot) (input : SlotValue α) : Option (Except (SlotValue α) Wrapped) :=
  match declaration.entering? slot with
  | some conversion =>
    if conversion.inside then none
    else
      conversion.run? (WrittenArm.accepts meaning declaration.ident.text slot · input) input
        (declaration.presetWrapper? meaning) fun tokens =>
          (tokens.memberOf? "Self").bind (declaration.constant? meaning)
  | none => none

/-! ### Reading both conversions -/

/-- The trait of an emitted conversion tells whether it may fail. -/
theorem fallible?_conversionTrait (source : TokenStream) :
    WrittenConversion.fallible? (declaration.conversionTrait source) =
      some declaration.throwOnCastFailure := by
  cases hthrow : declaration.throwOnCastFailure with
  | true =>
    have hread : (declaration.conversionTrait source).readPath.1 =
        ["core", "convert", "TryFrom"] := by
      simp only [conversionTrait, hthrow]
      rfl
    simp [WrittenConversion.fallible?, hread]
  | false =>
    have hread : (declaration.conversionTrait source).readPath.1 = ["core", "convert", "From"] := by
      simp only [conversionTrait, hthrow]
      rfl
    simp [WrittenConversion.fallible?, hread]

/-- The body of a conversion is a match with its arms and the fallback. -/
theorem functionBody_conversionItem (borrows : Bool) (source target input : TokenStream)
    (arms : List Arm) :
    (declaration.conversionItem borrows source target input arms).functionBody =
      matching input (arms.flatMap declaration.armTokens ++ declaration.fallbackArm) := by
  unfold conversionItem
  split <;> rw [CodeItem.functionBody_implementation]

/-- A conversion reads as its arms and the fallback, if it matches on its parameter. -/
theorem ofItem?_conversionItem (borrows : Bool) (source target input : TokenStream)
    (arms : List Arm) {inside : Bool}
    (hinput : ∀ tokens, WrittenMatch.ofTokens? (matching input tokens) =
      some ⟨"value", inside, WrittenArm.all tokens⟩) :
    WrittenConversion.ofItem? (declaration.conversionItem borrows source target input arms) =
      some ⟨declaration.throwOnCastFailure, inside,
        arms.map declaration.written ++ [declaration.writtenFallback]⟩ := by
  have hbody := declaration.functionBody_conversionItem borrows source target input arms
  have htrait := declaration.fallible?_conversionTrait source
  unfold conversionItem at hbody ⊢
  simp only [WrittenConversion.ofItem?, hbody, htrait, hinput, declaration.all_arms]

/-- The conversion of a wrapper matches on what is inside, with the arms of the slot and then the
fallback. -/
theorem leaving?_eq (slot : Slot) :
    declaration.leaving? slot = some ⟨declaration.throwOnCastFailure, true,
      (declaration.conversion slot).outgoing.map declaration.written ++
        [declaration.writtenFallback]⟩ :=
  declaration.ofItem?_conversionItem _ _ _ _ _ (WrittenMatch.ofTokens?_matching_wrapped "value")

/-- The conversion to a wrapper matches on the value, with the arms of the slot and then the
fallback. -/
theorem entering?_eq (slot : Slot) :
    declaration.entering? slot = some ⟨declaration.throwOnCastFailure, false,
      (declaration.conversion slot).incoming.map declaration.written ++
        [declaration.writtenFallback]⟩ :=
  declaration.ofItem?_conversionItem _ _ _ _ _ (WrittenMatch.ofTokens?_matching "value")

end Declaration

end ValuedEnum
