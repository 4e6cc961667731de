import ValuedEnum.Proofs.Emission.Conversion
import ValuedEnum.Proofs.Values

/-!
# The entries of an emitted conversion

An arm of a conversion accepts what its entry stands for, and a conversion as a whole takes the
first arm that accepts. This file proves both from the tokens, for the entries that a slot can
hold.
-/

namespace ValuedEnum

open TokenStream Code

namespace Lit

/-- A literal is no wildcard. -/
theorem isWildcard_tokens (lit : Lit) : WrittenArm.isWildcard lit.tokens = false := by
  unfold tokens token
  cases hkind : lit.kind with
  | bool value =>
    have hword := LitKind.ofText_eq_bool_iff.mp hkind
    have hne : lit.text ≠ "_" := by
      intro htext
      cases value <;> simp [htext, toString] at hword
    simpa [WrittenArm.isWildcard] using hne
  | _ => rfl

end Lit

namespace WrittenArm

/-- Behind the front of a guard stands what it compares with. -/
@[simp] theorem unguarded_guardFront (tokens : TokenStream) :
    unguarded (guardFront ++ tokens) = tokens := rfl

/-- A pattern with a guard is no wildcard. -/
@[simp] theorem isWildcard_guardFront (tokens : TokenStream) :
    isWildcard (guardFront ++ tokens) = false := rfl

/-- A literal stands for itself. -/
@[simp] theorem unguarded_lit (lit : Lit) : unguarded lit.tokens = lit.tokens := by
  unfold Lit.tokens Lit.token
  split <;> rfl

end WrittenArm

/-- The entries that a slot can hold. -/
def Entry.Fits : Entry → Slot → Prop
  | .ordinal _, .ordinal => True
  | .variant _, .enumeration => True
  | .value found, .value _ type => found.type = type
  | _, _ => False

namespace Interpretation

variable {α : Type}

/-- The value that an entry stands for in a slot. -/
def ofEntry (meaning : Interpretation α) (declaration : Declaration) (slot : Slot) :
    Entry → SlotValue α
  | .ordinal ordinal => .literal (meaning.denote slot (Ordinal.tokens declaration.repr ordinal))
  | .variant ident => .variant ident.text
  | .value value => .literal (meaning.denote slot value.pattern)

end Interpretation

namespace Declaration

variable {α : Type} (declaration : Declaration) (meaning : Interpretation α)

/-- Neither an ordinal nor the pattern of a value is a guard or a wildcard. -/
theorem unguarded_patternTokens (entry : Entry) :
    WrittenArm.unguarded (declaration.patternTokens entry) = declaration.patternTokens entry ∧
      WrittenArm.isWildcard (declaration.patternTokens entry) = false := by
  cases entry with
  | ordinal ordinal =>
    simp only [patternTokens, entryTokens, Ordinal.tokens]
    split
    · exact ⟨rfl, rfl⟩
    · split <;> exact ⟨rfl, rfl⟩
  | variant ident => exact ⟨rfl, rfl⟩
  | value value =>
    simp only [patternTokens, Value.pattern]
    split
    · exact ⟨rfl, rfl⟩
    · simp [Lit.isWildcard_tokens]

/-- As a pattern, an entry has the value that it stands for. -/
theorem value?_patternTokens {slot : Slot} {entry : Entry} (hfits : entry.Fits slot) :
    meaning.value? declaration.ident.text slot (declaration.patternTokens entry) =
      some (meaning.ofEntry declaration slot entry) := by
  cases entry <;> cases slot <;>
    simp_all [Entry.Fits, Interpretation.value?, Interpretation.ofEntry, patternTokens, entryTokens]

/-- An arm accepts what is equal to its entry, with and without a guard. -/
theorem accepts_armPattern {slot : Slot} (arm : Arm) (hfits : arm.accepts.Fits slot)
    (input : SlotValue α) :
    WrittenArm.accepts meaning declaration.ident.text slot (declaration.armPattern arm) input =
      meaning.equal slot (meaning.ofEntry declaration slot arm.accepts) input := by
  obtain ⟨hunguarded, hwildcard⟩ := declaration.unguarded_patternTokens arm.accepts
  unfold WrittenArm.accepts armPattern
  split
  · simp [declaration.value?_patternTokens meaning hfits]
  · simp [hunguarded, hwildcard, declaration.value?_patternTokens meaning hfits]

/-- The result of an arm is no call. -/
@[simp] theorem call?_resultTokens (callee : List String) (result : ArmResult) :
    call? callee (declaration.resultTokens result) = none := by
  cases result with
  | constant ident => rfl
  | entry entry =>
    cases entry with
    | ordinal ordinal =>
      simp only [resultTokens, entryTokens, Ordinal.tokens]
      split
      · rfl
      · split <;> rfl
    | variant ident => rfl
    | value value =>
      simp only [resultTokens, entryTokens, Value.tokens, Value.pattern]
      split
      · rw [List.append_assoc, call?_reference]
      · split <;> simp

/-- An emitted conversion takes the first arm that accepts, and the fallback if there is none. -/
theorem run?_arms {ε τ : Type} (accepts : TokenStream → Bool)
    (haccepts : accepts (word "_") = true) (inside : Bool) (arms : List Arm) (value : ε)
    (fallback : Option τ) (read : TokenStream → Option τ) :
    WrittenConversion.run? ⟨declaration.throwOnCastFailure, inside,
        arms.map declaration.written ++ [declaration.writtenFallback]⟩ accepts value fallback read =
      match arms.find? fun arm => accepts (declaration.armPattern arm) with
      | some arm => (read (declaration.resultTokens arm.result)).map .ok
      | none =>
        if declaration.throwOnCastFailure then some (.error value) else fallback.map .ok := by
  rw [WrittenConversion.run?, List.find?_append, List.find?_map]
  have hwritten : (fun arm => accepts arm.pattern) ∘ declaration.written =
      fun arm => accepts (declaration.armPattern arm) := rfl
  rw [hwritten]
  cases arms.find? fun arm => accepts (declaration.armPattern arm) with
  | some arm =>
    cases hthrow : declaration.throwOnCastFailure <;>
      simp [WrittenArm.result?, written, armResult, hthrow, accepted]
  | none =>
    have hvalue : readPath (word "value") = (["value"], []) := rfl
    cases hthrow : declaration.throwOnCastFailure <;>
      simp [WrittenArm.result?, writtenFallback, haccepts, hthrow, refused, preset, hvalue]

end Declaration

end ValuedEnum
