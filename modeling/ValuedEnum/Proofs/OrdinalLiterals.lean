import ValuedEnum.Proofs.Discriminant
import ValuedEnum.Proofs.Grouping
import ValuedEnum.Proofs.Typing.Literal

/-!
# The expressions with ordinals

An expression has an ordinal if it is an integer literal below 2^64, perhaps behind one minus sign,
with invisible groups anywhere around the sign and the literal. The ordinal is the only word that is
congruent to the integer. This file proves both, and that no other expression has an ordinal.
-/

namespace ValuedEnum

namespace Expr

/-- An integer literal in any number of invisible groups. -/
inductive IsMagnitude : Expr → Nat → Prop
  | literal {lit : Lit} {value : Nat} {suffix : List Char} (attributes : TokenStream)
      (h : lit.kind = .integer value suffix) : IsMagnitude (.literal attributes lit) value
  | group {inner : Expr} {value : Nat} (attributes : TokenStream) (span : Span)
      (h : IsMagnitude inner value) : IsMagnitude (.group attributes inner span) value

/-- An integer literal or its negation, in any number of invisible groups. -/
inductive IsInteger : Expr → Int → Prop
  | literal {expr : Expr} {value : Nat} (h : expr.IsMagnitude value) : IsInteger expr value
  | minus {operand : Expr} {value : Nat} (attributes : TokenStream) (sign : Span)
      (h : operand.IsMagnitude value) : IsInteger (.unary attributes '-' sign operand) (-value)
  | group {inner : Expr} {value : Int} (attributes : TokenStream) (span : Span)
      (h : IsInteger inner value) : IsInteger (.group attributes inner span) value

/-- A literal in groups is what is read without its sign. -/
theorem isMagnitude_iff {expr : Expr} {value : Nat} :
    expr.IsMagnitude value ↔ expr.magnitude? = some value := by
  constructor
  · intro h
    induction h with
    | literal attributes hkind => simp [magnitude?, hkind]
    | group _ _ _ ih => exact ih
  · intro h
    induction expr with
    | literal attributes lit =>
      obtain ⟨_, _, suffix, hlit, hkind⟩ := Ordinal.ungrouped_of_magnitude? h
      cases hlit
      exact .literal attributes hkind
    | group attributes inner span ih => exact .group attributes span (ih h)
    | _ => simp [magnitude?] at h

/-- An integer without a sign is one with its own value. -/
theorem integer?_of_magnitude? {expr : Expr} {value : Nat} (h : expr.magnitude? = some value) :
    expr.integer? = some (value : Int) := by
  induction expr with
  | literal attributes lit => simp [integer?, h]
  | group attributes inner span ih => exact ih h
  | _ => simp [magnitude?] at h

/-- A literal or its negation in groups is what is read with its sign. -/
theorem isInteger_iff {expr : Expr} {value : Int} :
    expr.IsInteger value ↔ expr.integer? = some value := by
  constructor
  · intro h
    induction h with
    | literal hmagnitude => exact integer?_of_magnitude? (isMagnitude_iff.mp hmagnitude)
    | minus attributes sign hmagnitude => simp [integer?, isMagnitude_iff.mp hmagnitude]
    | group _ _ _ ih => exact ih
  · intro h
    induction expr with
    | literal attributes lit =>
      obtain ⟨magnitude, hmagnitude, rfl⟩ := Option.map_eq_some_iff.mp h
      exact .literal (isMagnitude_iff.mpr hmagnitude)
    | unary attributes operator sign operand =>
      unfold integer? at h
      split at h
      · rename_i heq
        cases heq
        obtain ⟨magnitude, hmagnitude, rfl⟩ := Option.map_eq_some_iff.mp h
        exact .minus attributes sign (isMagnitude_iff.mpr hmagnitude)
      · contradiction
      · simp [magnitude?] at h
    | group attributes inner span ih => exact .group attributes span (ih h)
    | other form tokens => simp [integer?, magnitude?] at h

end Expr

namespace Ordinal

/-- Whatever has no magnitude is no literal with a word, below all groups. -/
theorem ofLit?_of_magnitude?_eq_none {expr : Expr} (h : expr.magnitude? = none) :
    expr.lit?.bind ofLit? = none := by
  induction expr with
  | literal attributes lit =>
    unfold Expr.magnitude? at h
    simp only [Expr.lit?, Option.bind_some, ofLit?]
    cases hkind : lit.kind <;> simp [hkind] at h ⊢
  | group attributes inner span ih => exact ih h
  | _ => rfl

/-- Whatever is no integer has no ordinal. -/
theorem ofExpr?_of_integer?_eq_none {expr : Expr} (h : expr.integer? = none) :
    ofExpr? expr = none := by
  induction expr with
  | literal attributes lit =>
    exact ofLit?_of_magnitude?_eq_none (Option.map_eq_none_iff.mp h)
  | unary attributes operator sign operand =>
    by_cases hminus : operator = '-'
    · subst hminus
      rw [ofExpr?_minus, ofLit?_of_magnitude?_eq_none (Option.map_eq_none_iff.mp h)]
      rfl
    · exact ofExpr?_unary_of_ne hminus attributes sign operand
  | group attributes inner span ih => exact ih h
  | other form tokens => rfl

/-- The word of an integer is the only one that is congruent to it. -/
theorem ofInt_eq_iff {value : Int} {ordinal : Int64} :
    Int64.ofInt value = ordinal ↔ ordinal.toInt % 2 ^ 64 = value % 2 ^ 64 := by
  rw [Int64.ofInt_eq_iff_bmod_eq_toInt]
  constructor
  · intro h
    rw [← h]
    exact Int.bmod_emod
  · intro h
    have hordinal : ordinal.toInt.bmod (2 ^ 64) = ordinal.toInt :=
      (Int64.ofInt_eq_iff_bmod_eq_toInt _ _).mp ordinal.ofInt_toInt
    calc value.bmod (2 ^ 64)
      _ = (value % 2 ^ 64).bmod (2 ^ 64) := (Int.emod_bmod _ _).symm
      _ = (ordinal.toInt % 2 ^ 64).bmod (2 ^ 64) := by rw [h]
      _ = ordinal.toInt.bmod (2 ^ 64) := Int.emod_bmod _ _
      _ = ordinal.toInt := hordinal

/-- An expression has an ordinal if it is an integer below 2^64 without its sign. -/
theorem ofExpr?_eq_some_iff {expr : Expr} {ordinal : Int64} :
    ofExpr? expr = some ordinal ↔ ∃ value, expr.IsInteger value ∧ value.natAbs < 2 ^ 64 ∧
      ordinal.toInt % 2 ^ 64 = value % 2 ^ 64 := by
  simp only [Expr.isInteger_iff, ← ofInt_eq_iff]
  cases hinteger : expr.integer? with
  | none => simp [ofExpr?_of_integer?_eq_none hinteger]
  | some value =>
    have hsize : UInt64.size = 2 ^ 64 := rfl
    rw [ofExpr?_of_integer? hinteger, hsize]
    simp [Option.ite_none_right_eq_some]

/-- The ordinal of an integer is its word, which is the integer itself if a word can hold it. -/
theorem exists_ofExpr? {expr : Expr} {value : Int} (h : expr.IsInteger value)
    (hsize : value.natAbs < 2 ^ 64) :
    ∃ ordinal, ofExpr? expr = some ordinal ∧
      (∀ other : Int64, other.toInt % 2 ^ 64 = value % 2 ^ 64 → other = ordinal) ∧
      (-2 ^ 63 ≤ value → value < 2 ^ 63 → ordinal.toInt = value) := by
  have hword : (Int64.ofInt value).toInt % 2 ^ 64 = value % 2 ^ 64 := ofInt_eq_iff.mp rfl
  refine ⟨Int64.ofInt value, ofExpr?_eq_some_iff.mpr ⟨value, h, hsize, hword⟩, ?_, ?_⟩
  · intro other hother
    exact (ofInt_eq_iff.mpr hother).symm
  · intro hlow hhigh
    exact Int64.toInt_ofInt_of_le hlow hhigh

/-- An expression that is no integer literal has no ordinal. -/
theorem ofExpr?_of_not_isInteger {expr : Expr} (h : ∀ value, ¬ expr.IsInteger value) :
    ofExpr? expr = none := by
  refine Option.eq_none_iff_forall_ne_some.mpr fun ordinal hordinal => ?_
  obtain ⟨value, hvalue, -⟩ := ofExpr?_eq_some_iff.mp hordinal
  exact h value hvalue

end Ordinal

namespace Expr

/-- A literal is found below all groups. -/
theorem IsMagnitude.exists_ungrouped {expr : Expr} {value : Nat} (h : expr.IsMagnitude value) :
    ∃ attributes lit suffix, expr.ungrouped = .literal attributes lit ∧
      lit.kind = .integer value suffix :=
  Ordinal.ungrouped_of_magnitude? (isMagnitude_iff.mp h)

/-- The digits of an integer and its suffix are a literal with the number that the digits stand for,
whatever the suffix is. -/
theorem isMagnitude_of_denotes {digits suffix : List Char} {value : Nat} {type : IntegerType}
    (h : Form.Denotes digits value) (hsuffix : Form.IntegerSuffix suffix type)
    (attributes : TokenStream) (span : Span) :
    IsMagnitude (.literal attributes ⟨String.ofList (digits ++ suffix), span⟩) value := by
  have hkind : LitKind.ofText (digits ++ suffix) = .integer value suffix :=
    LitKind.ofText_of_number? h.integer.exists_front (LitKind.number?_of_denotes h hsuffix)
  refine @IsMagnitude.literal _ _ suffix attributes ?_
  rw [Lit.kind, String.toList_ofList, hkind]

end Expr

namespace Ordinal

/-- The domain and the values of ordinals. An expression has an ordinal if it is an integer literal
or one minus sign in front of one, with groups around both, and the magnitude is below 2^64. The
ordinal is the one word that is congruent to the integer, and so the integer itself if a word can
hold it. The magnitude is what the digits stand for in any base, with gaps and whatever the suffix
is. All other literals, expressions behind another sign or behind two of them, and expressions that
are neither literals nor signed have no ordinal. -/
theorem ofExpr?_exact :
    (∀ expr ordinal, ofExpr? expr = some ordinal ↔ ∃ value, expr.IsInteger value ∧
      value.natAbs < 2 ^ 64 ∧ ordinal.toInt % 2 ^ 64 = value % 2 ^ 64) ∧
    (∀ expr value, expr.IsInteger value → value.natAbs < 2 ^ 64 →
      ∃ ordinal, ofExpr? expr = some ordinal ∧
        (∀ other : Int64, other.toInt % 2 ^ 64 = value % 2 ^ 64 → other = ordinal) ∧
        (-2 ^ 63 ≤ value → value < 2 ^ 63 → ordinal.toInt = value)) ∧
    (∀ digits suffix value type, Form.Denotes digits value → Form.IntegerSuffix suffix type →
      ∀ attributes span, Expr.IsMagnitude
        (.literal attributes ⟨String.ofList (digits ++ suffix), span⟩) value) ∧
    (∀ expr attributes lit, expr.ungrouped = .literal attributes lit →
      (∀ value suffix, lit.kind ≠ .integer value suffix) → ofExpr? expr = none) ∧
    (∀ expr attributes operator sign operand,
      expr.ungrouped = .unary attributes operator sign operand →
      (operator ≠ '-' ∨ ∀ attributes lit, operand.ungrouped ≠ .literal attributes lit) →
      ofExpr? expr = none) ∧
    ∀ expr form tokens, expr.ungrouped = .other form tokens → ofExpr? expr = none := by
  refine ⟨fun _ _ => ofExpr?_eq_some_iff, fun _ _ => exists_ofExpr?,
    fun _ _ _ _ h hsuffix => Expr.isMagnitude_of_denotes h hsuffix, ?_, ?_, ?_⟩
  · intro expr attributes lit hungrouped hkind
    -- Groups around the whole expression are looked through, so its form below them decides.
    rw [← ofExpr?_ungrouped, hungrouped]
    refine ofExpr?_of_not_isInteger fun value hvalue => ?_
    cases hvalue with
    | literal hmagnitude =>
      cases hmagnitude with
      | literal _ hinteger => exact hkind _ _ hinteger
  · intro expr attributes operator sign operand hungrouped hsign
    rw [← ofExpr?_ungrouped, hungrouped]
    refine ofExpr?_of_not_isInteger fun value hvalue => ?_
    cases hvalue with
    | literal hmagnitude => cases hmagnitude
    | minus _ _ hmagnitude =>
      obtain ⟨_, _, _, hliteral, _⟩ := hmagnitude.exists_ungrouped
      exact hsign.elim (absurd rfl) fun hoperand => hoperand _ _ hliteral
  · intro expr form tokens hungrouped
    rw [← ofExpr?_ungrouped, hungrouped]
    rfl

/-- The negation of 2^63, with a group between the sign and the digits. -/
def lowestExpr : Expr :=
  .unary [] '-' .nowhere (.group [] (.literal []
    ⟨String.ofList ("0x8000_0000_0000_0000".toList ++ "u64".toList), .nowhere⟩) .nowhere)

/-- The lowest word is written with gaps and with the suffix of an unsigned type. -/
theorem ofExpr?_lowestExpr :
    lowestExpr.IsInteger (-(2 ^ 63 : Nat)) ∧
      ∃ ordinal, ofExpr? lowestExpr = some ordinal ∧ ordinal.toInt = -2 ^ 63 := by
  have hall : ("8000_0000_0000_0000".toList.all fun c =>
      Form.Radix.hexadecimal.digits.contains c || c == '_') = true := by
    decide
  have hdigits : Form.Denotes "0x8000_0000_0000_0000".toList (2 ^ 63) := by
    refine @Form.Denotes.based .hexadecimal "8000_0000_0000_0000".toList (fun c hc => ?_) ?_
    · simpa using List.all_eq_true.mp hall c hc
    · exact ⟨'8', by decide, by decide⟩
  have hmagnitude := ofExpr?_exact.2.2.1 _ _ _ _ hdigits (.name .u64) [] .nowhere
  have hinteger : lowestExpr.IsInteger (-(2 ^ 63 : Nat)) :=
    .minus [] .nowhere (.group [] .nowhere hmagnitude)
  obtain ⟨ordinal, hordinal, -, hvalue⟩ := ofExpr?_exact.2.1 _ _ hinteger (by decide)
  exact ⟨hinteger, ordinal, hordinal, hvalue (by decide) (by decide)⟩

/-- Digits between parentheses have no ordinal, and neither has a cast. -/
example : ∀ tokens ∈ [[.group .parenthesis [.literal "1" .nowhere] .nowhere],
      .literal "1" .nowhere :: (TokenStream.word "as" ++ TokenStream.word "u8")],
    ∃ expr ∈ (Grammar.expr .whole tokens).toOption, ofExpr? expr = none := by
  decide +kernel

end Ordinal

end ValuedEnum
