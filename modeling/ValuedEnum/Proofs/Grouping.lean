import ValuedEnum.Declaration

/-!
# Invisible groups in literals

A fragment that is handed on stands in an invisible group, and so may any part of an expression. An
ordinal is read through all of these groups. A value is read through the ones around the whole
expression, but not through one behind its minus sign. This file proves both.
-/

namespace ValuedEnum

namespace Expr

/-- The second expression is the first one with some of its subexpressions in invisible groups. The
subexpressions of expressions without a sign are among their tokens. -/
inductive Regrouped : Expr → Expr → Prop
  | literal (attributes : TokenStream) (lit : Lit) :
      Regrouped (.literal attributes lit) (.literal attributes lit)
  | unary {operand regrouped : Expr} (attributes : TokenStream) (operator : Char) (sign : Span)
      (h : Regrouped operand regrouped) :
      Regrouped (.unary attributes operator sign operand)
        (.unary attributes operator sign regrouped)
  | group {inner regrouped : Expr} (attributes : TokenStream) (span : Span)
      (h : Regrouped inner regrouped) :
      Regrouped (.group attributes inner span) (.group attributes regrouped span)
  | other (form : ExprForm) (tokens regrouped : TokenStream) :
      Regrouped (.other form tokens) (.other form regrouped)
  | wrapped {expr regrouped : Expr} (attributes : TokenStream) (span : Span)
      (h : Regrouped expr regrouped) : Regrouped expr (.group attributes regrouped span)

/-- The literal below all groups. -/
def lit? : Expr → Option Lit
  | literal _ lit => some lit
  | group _ inner _ => inner.lit?
  | _ => none

/-- Whether a group stands right behind the sign of an expression, below all groups around it. -/
def groupsOperand : Expr → Bool
  | group _ inner _ => inner.groupsOperand
  | unary _ _ _ (group ..) => true
  | _ => false

/-- Groups neither make nor hide a literal. -/
theorem Regrouped.lit?_eq {first second : Expr} (h : first.Regrouped second) :
    second.lit? = first.lit? := by
  induction h with
  | literal => rfl
  | unary => rfl
  | group _ _ _ ih => exact ih
  | other => rfl
  | wrapped _ _ _ ih => exact ih

end Expr

namespace Ordinal

/-- Behind a minus sign, the literal below all groups is negated. -/
theorem ofExpr?_minus (attributes : TokenStream) (sign : Span) (operand : Expr) :
    ofExpr? (.unary attributes '-' sign operand) = (operand.lit?.bind ofLit?).map (- ·) := by
  induction operand with
  | group _ inner _ ih => exact ih
  | _ => rfl

/-- No other sign makes an ordinal. -/
theorem ofExpr?_unary_of_ne {operator : Char} (h : operator ≠ '-') (attributes : TokenStream)
    (sign : Span) (operand : Expr) : ofExpr? (.unary attributes operator sign operand) = none := by
  unfold ofExpr?
  split
  · contradiction
  · contradiction
  · rename_i hminus
    cases hminus
    exact absurd rfl h
  · rfl

/-- An ordinal does not depend on groups. -/
theorem ofExpr?_of_regrouped {first second : Expr} (h : first.Regrouped second) :
    ofExpr? second = ofExpr? first := by
  induction h with
  | literal => rfl
  | unary attributes operator sign hoperand _ =>
    by_cases hminus : operator = '-'
    · rw [hminus, ofExpr?_minus, ofExpr?_minus, hoperand.lit?_eq]
    · rw [ofExpr?_unary_of_ne hminus, ofExpr?_unary_of_ne hminus]
  | group _ _ _ ih => exact ih
  | other => rfl
  | wrapped _ _ _ ih => exact ih

end Ordinal

namespace Value

/-- What stands behind a sign and is no literal has no value. -/
theorem ofExpr_unary {operand : Expr} (h : ∀ attributes lit, operand ≠ .literal attributes lit)
    (attributes : TokenStream) (operator : Char) (sign : Span) :
    ofExpr (.unary attributes operator sign operand) =
      .error ⟨.notALiteral, (Expr.unary attributes operator sign operand).span⟩ := by
  unfold ofExpr
  split
  · exact absurd rfl (h _ _)
  · rfl

/-- A group behind a sign is no literal, whatever is in it. -/
theorem ofExpr_of_groupsOperand {expr : Expr} (h : expr.groupsOperand = true) :
    ofExpr expr = .error ⟨.notALiteral, expr.ungrouped.span⟩ := by
  induction expr with
  | group attributes inner span ih => exact ih h
  | unary attributes operator sign operand =>
    cases operand with
    | group => exact ofExpr_unary (by simp) attributes operator sign
    | _ => simp [Expr.groupsOperand] at h
  | _ => simp [Expr.groupsOperand] at h

/-- A value does not depend on groups, unless one of them stands behind a sign. -/
theorem toOption_ofExpr_of_regrouped {first second : Expr} (h : first.Regrouped second)
    (hoperand : second.groupsOperand = false) :
    (ofExpr second).toOption = (ofExpr first).toOption := by
  induction h with
  | literal => rfl
  | unary attributes operator sign h _ =>
    cases h with
    | literal => rfl
    | unary =>
      rw [ofExpr_unary (by simp), ofExpr_unary (by simp)]
      rfl
    | other =>
      rw [ofExpr_unary (by simp), ofExpr_unary (by simp)]
      rfl
    | group => simp [Expr.groupsOperand] at hoperand
    | wrapped => simp [Expr.groupsOperand] at hoperand
  | group _ _ _ ih => exact ih hoperand
  | other => rfl
  | wrapped _ _ _ ih => exact ih hoperand

/-- An ordinal is the same one in every grouping. So is a value, as long as no group stands behind
its sign; with such a group an expression has no value, even if it has an ordinal. -/
theorem readings_of_regrouped {first second : Expr} (h : first.Regrouped second) :
    Ordinal.ofExpr? second = Ordinal.ofExpr? first ∧
      (ofExpr second).toOption =
        (if second.groupsOperand then none else (ofExpr first).toOption) ∧
      (second.groupsOperand = true →
        ofExpr second = .error ⟨.notALiteral, second.ungrouped.span⟩) := by
  refine ⟨Ordinal.ofExpr?_of_regrouped h, ?_, ofExpr_of_groupsOperand⟩
  -- A group behind the sign is the one place that a value is not read through.
  cases hoperand : second.groupsOperand with
  | true =>
    rw [ofExpr_of_groupsOperand hoperand]
    rfl
  | false => exact toOption_ofExpr_of_regrouped h hoperand

/-- A number behind a minus sign, as it is written and with the number handed on in a group. -/
def minusOne : Expr := .unary [] '-' .nowhere (.literal [] ⟨"1", .nowhere⟩)

/-- The same number with a group between the sign and the digits. -/
def minusGroupedOne : Expr :=
  .unary [] '-' .nowhere (.group [] (.literal [] ⟨"1", .nowhere⟩) .nowhere)

/-- The second number is the first one with its digits in a group. -/
theorem regrouped_minusOne : minusOne.Regrouped minusGroupedOne :=
  .unary [] '-' .nowhere (.wrapped [] .nowhere (.literal [] ⟨"1", .nowhere⟩))

/-- A group around the whole expression changes nothing, and one around its number takes the value
away. -/
theorem readings_of_minusOne :
    minusOne.Regrouped (.group [] minusOne .nowhere) ∧ minusOne.Regrouped minusGroupedOne ∧
      (ofExpr (.group [] minusOne .nowhere)).toOption =
        some ⟨.integer .i32, true, ⟨"1", .nowhere⟩⟩ ∧
      Ordinal.ofExpr? minusGroupedOne = some (-1) ∧
      (ofExpr minusGroupedOne).toOption = none := by
  have hplain : minusOne.Regrouped minusOne :=
    .unary [] '-' .nowhere (.literal [] ⟨"1", .nowhere⟩)
  have hwhole : minusOne.Regrouped (.group [] minusOne .nowhere) := .wrapped [] .nowhere hplain
  obtain ⟨_, hvalue, _⟩ := readings_of_regrouped hwhole
  obtain ⟨hordinal, hnone, _⟩ := readings_of_regrouped regrouped_minusOne
  exact ⟨hwhole, regrouped_minusOne, hvalue.trans (by rfl), hordinal.trans (by rfl),
    hnone.trans (by rfl)⟩

/-- Two readings of one expression differ: a number handed on behind a minus sign has the ordinal
that it has without its group, but not the value. -/
theorem not_transparent_behind_minus :
    Grammar.expr .whole
        [.punct '-' .alone .nowhere, .group .invisible [.literal "1" .nowhere] .nowhere] =
      .ok minusGroupedOne ∧
    minusOne.Regrouped minusGroupedOne ∧
    Ordinal.ofExpr? minusGroupedOne = Ordinal.ofExpr? minusOne ∧
    ofExpr minusOne = .ok ⟨.integer .i32, true, ⟨"1", .nowhere⟩⟩ ∧
    ofExpr minusGroupedOne = .error ⟨.notALiteral, minusGroupedOne.span⟩ :=
  ⟨by rfl, regrouped_minusOne, by rfl, by rfl, by rfl⟩

end Value

end ValuedEnum
