import ValuedEnum.Literal.Value

/-!
# What values are read from

A value keeps the literal that it was read from, with the type that this literal has. Only numbers
have a sign, and no unsigned ones.
-/

namespace ValuedEnum

namespace TokenStream

/-- The integer that some tokens stand for: a literal, perhaps behind a minus sign. -/
def integer? : TokenStream → Option Int
  | [.literal text _] => magnitude? text
  | [.punct '-' _ _, .literal text _] => (magnitude? text).map (- ·)
  | _ => none
where
  magnitude? (text : String) : Option Int :=
    match LitKind.ofText text.toList with
    | .integer value _ => some value
    | _ => none

end TokenStream

namespace LitKind

/-- A number is no truth value. -/
theorem number?_ne_bool (text : List Char) (value : Bool) : number? text ≠ some (.bool value) := by
  unfold number? integer? float?
  grind

/-- Only the words for the truth values denote them. -/
theorem ofText_eq_bool_iff {text : List Char} {value : Bool} :
    ofText text = .bool value ↔ text = (toString value).toList := by
  constructor
  · intro h
    have hnumber : (number? text).getD other ≠ .bool value := by
      cases hread : number? text with
      | none => simp
      | some kind =>
        rintro rfl
        exact number?_ne_bool text value hread
    unfold ofText at h
    split at h
    · obtain rfl : true = value := by simpa using h
      assumption
    · split at h
      · obtain rfl : false = value := by simpa using h
        assumption
      · grind
  · rintro rfl
    cases value <;> decide

end LitKind

namespace ValueType

/-- Only byte strings have the type of byte strings: no suffix names it. -/
theorem kind_of_ofLit {lit : Lit} (h : ofLit lit = .ok .byteString) : lit.kind = .byteString := by
  unfold ofLit ofSuffix at h
  cases hkind : lit.kind with
  | byteString => rfl
  | integer value suffix =>
    simp only [hkind] at h
    cases hname : IntegerType.ofName? (String.ofList suffix) <;> grind
  | float suffix =>
    simp only [hkind] at h
    cases hname : FloatType.ofName? (String.ofList suffix) <;> grind
  | _ => simp [hkind] at h

end ValueType

namespace Value

/-- What an expression without a group around it must be to have a value: a literal with a type, or
a number of a signed type right behind a minus sign. Attributes do not matter. -/
inductive Denotes : Expr → Value → Prop
  | literal (attributes : TokenStream) {lit : Lit} {type : ValueType}
      (h : ValueType.ofLit lit = .ok type) : Denotes (.literal attributes lit) ⟨type, false, lit⟩
  | negated (outer inner : TokenStream) (sign : Span) {lit : Lit} {type : ValueType}
      (hnumber : lit.isNumber = true) (h : ValueType.ofLit lit = .ok type)
      (hsigned : type.isUnsigned = false) :
      Denotes (.unary outer '-' sign (.literal inner lit)) ⟨type, true, lit⟩

/-- Invisible groups around an expression do not matter. -/
theorem ofExpr_ungrouped (expr : Expr) : ofExpr expr.ungrouped = ofExpr expr := by
  induction expr with
  | group attributes inner span ih => exact ih
  | _ => rfl

/-- Such an expression has its value. -/
theorem ofExpr_of_denotes {expr : Expr} {value : Value} (h : Denotes expr value) :
    ofExpr expr = .ok value := by
  cases h with
  | literal attributes h => simp [ofExpr, h, bind, Except.bind, pure, Except.pure]
  | negated outer inner sign hnumber h hsigned =>
    simp [ofExpr, hnumber, h, hsigned, bind, Except.bind]

/-- No other expression has a value, apart from the groups around it. -/
theorem denotes_of_ofExpr {expr : Expr} {value : Value} (h : ofExpr expr = .ok value) :
    Denotes expr.ungrouped value := by
  induction expr with
  | literal attributes lit =>
    cases hlit : ValueType.ofLit lit with
    | error problem => simp [ofExpr, hlit, bind, Except.bind] at h
    | ok type =>
      simp only [ofExpr, hlit, bind, Except.bind, pure, Except.pure, Except.ok.injEq] at h
      exact h ▸ .literal attributes hlit
  | unary attributes operator sign operand _ =>
    unfold ofExpr at h
    split at h
    · rename_i inner lit _
      by_cases hnumber : lit.isNumber = true
      · cases hlit : ValueType.ofLit lit with
        | error problem => simp [hnumber, hlit, bind, Except.bind] at h
        | ok type =>
          by_cases hunsigned : type.isUnsigned = true
          · simp [hnumber, hlit, hunsigned, bind, Except.bind] at h
          · simp only [hnumber, hlit, hunsigned, bind, Except.bind, if_true, Bool.false_eq_true,
              if_false, Except.ok.injEq] at h
            exact h ▸ .negated attributes inner sign hnumber hlit (by simpa using hunsigned)
      · simp [hnumber] at h
    · simp at h
  | group attributes inner span ih => exact ih h
  | other form tokens => simp [ofExpr] at h

/-- An expression has a value if and only if it denotes one below all groups around it. -/
theorem ofExpr_eq_ok_iff {expr : Expr} {value : Value} :
    ofExpr expr = .ok value ↔ Denotes expr.ungrouped value :=
  ⟨denotes_of_ofExpr, fun h => (ofExpr_ungrouped expr).symm.trans (ofExpr_of_denotes h)⟩

/-- A value has the type of its literal, and a sign only if that is a number of a signed type. -/
theorem ofLit_of_ofExpr {expr : Expr} {value : Value} (h : ofExpr expr = .ok value) :
    ValueType.ofLit value.lit = .ok value.type ∧
      (value.negative = true → value.lit.isNumber ∧ value.type.isUnsigned = false) := by
  have hdenotes := denotes_of_ofExpr h
  generalize expr.ungrouped = below at hdenotes
  cases hdenotes with
  | literal _ hlit => exact ⟨hlit, by simp⟩
  | negated _ _ _ hnumber hlit hsigned => exact ⟨hlit, fun _ => ⟨hnumber, hsigned⟩⟩

/-- A byte string has no sign. -/
theorem kind_of_byteString {expr : Expr} {value : Value} (h : ofExpr expr = .ok value)
    (htype : value.type = .byteString) : value.lit.kind = .byteString ∧ value.negative = false := by
  obtain ⟨hlit, hnegative⟩ := ofLit_of_ofExpr h
  have hkind := ValueType.kind_of_ofLit (htype ▸ hlit)
  refine ⟨hkind, ?_⟩
  cases hsign : value.negative with
  | false => rfl
  | true => simp [Lit.isNumber, hkind, hsign] at hnegative

/-- Every value that is read from some expressions is the value of one of them. -/
theorem ofExpr_of_ofExprs {exprs : List Expr} {values : List Value}
    (h : ofExprs exprs = .ok values) :
    ∀ value ∈ values, ∃ expr ∈ exprs, ofExpr expr = .ok value := by
  induction exprs generalizing values with
  | nil =>
    simp only [ofExprs, Except.ok.injEq] at h
    simp [← h]
  | cons expr rest ih =>
    cases hfirst : ofExpr expr with
    | error problem => simp [ofExprs, hfirst, bind, Except.bind] at h
    | ok first =>
      cases hrest : ofExprs rest with
      | error problem => simp [ofExprs, hfirst, hrest, bind, Except.bind] at h
      | ok others =>
        simp only [ofExprs, hfirst, hrest, bind, Except.bind, pure, Except.pure,
          Except.ok.injEq] at h
        subst h
        intro value hvalue
        rcases List.mem_cons.mp hvalue with rfl | hvalue
        · exact ⟨expr, List.mem_cons_self, hfirst⟩
        · obtain ⟨other, hother, hvalue⟩ := ih hrest value hvalue
          exact ⟨other, List.mem_cons_of_mem _ hother, hvalue⟩

/-- Some expressions have values if each one has. -/
theorem ofExprs_ok_iff {exprs : List Expr} :
    (∃ values, ofExprs exprs = .ok values) ↔ ∀ expr ∈ exprs, ∃ value, ofExpr expr = .ok value := by
  induction exprs with
  | nil => simp [ofExprs]
  | cons first rest ih =>
    rw [List.forall_mem_cons, ← ih]
    cases hfirst : ofExpr first <;> cases hrest : ofExprs rest <;>
      simp [ofExprs, hfirst, hrest, bind, Except.bind, pure, Except.pure]

/-- What is wrong with some expressions is wrong with the first one that has no value. -/
theorem ofExprs_error_iff {exprs : List Expr} {problem : Problem} :
    ofExprs exprs = .error problem ↔ ∃ front expr back, exprs = front ++ expr :: back ∧
      (∀ earlier ∈ front, ∃ value, ofExpr earlier = .ok value) ∧ ofExpr expr = .error problem := by
  constructor
  · intro h
    induction exprs with
    | nil => simp [ofExprs] at h
    | cons first rest ih =>
      cases hfirst : ofExpr first with
      | error other =>
        obtain rfl : other = problem := by simpa [ofExprs, hfirst, bind, Except.bind] using h
        exact ⟨[], first, rest, rfl, by simp, hfirst⟩
      | ok value =>
        cases hrest : ofExprs rest with
        | ok values =>
          simp [ofExprs, hfirst, hrest, bind, Except.bind, pure, Except.pure] at h
        | error other =>
          obtain rfl : other = problem := by
            simpa [ofExprs, hfirst, hrest, bind, Except.bind] using h
          obtain ⟨front, expr, back, rfl, hfront, hexpr⟩ := ih hrest
          have hfirstRest := List.forall_mem_cons.mpr ⟨⟨value, hfirst⟩, hfront⟩
          exact ⟨first :: front, expr, back, rfl, hfirstRest, hexpr⟩
  · rintro ⟨front, expr, back, rfl, hfront, hexpr⟩
    induction front with
    | nil => simp [ofExprs, hexpr, bind, Except.bind]
    | cons first rest ih =>
      obtain ⟨⟨value, hvalue⟩, hrest⟩ := List.forall_mem_cons.mp hfront
      simp [ofExprs, hvalue, ih hrest, bind, Except.bind]

end Value

end ValuedEnum
