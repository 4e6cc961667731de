import ValuedEnum.Grammar
import ValuedEnum.Proofs.Positions.Tokens

/-!
# Phrases without their positions

What is read from tokens holds their positions. This file says what paths, attributes, expressions
and items are without them, and that the tokens of alike expressions are alike.
-/

namespace ValuedEnum

instance : Located TypeForm := ⟨fun form => form⟩
instance : Unlocated TypeForm := ⟨fun _ => rfl⟩
instance : Located Generics.PathForm := ⟨fun form => form⟩
instance : Unlocated Generics.PathForm := ⟨fun _ => rfl⟩
instance : Located ItemRule.Invocation := ⟨fun kind => kind⟩
instance : Unlocated ItemRule.Invocation := ⟨fun _ => rfl⟩

/-! ### Paths and visibilities -/

instance : Located Path := ⟨fun path =>
  ⟨unplaced path.leading, unplaced path.first, unplaced path.rest⟩⟩

instance : Located Visibility where
  unplaced
    | .inside marked path => .inside marked (unplaced path)
    | visibility => visibility

instance {leading other : Option Span} {first second : Ident} {rest others : List Ident}
    [hleading : Alike leading other] [h : Alike first second] [hrest : Alike rest others] :
    Alike (⟨leading, first, rest⟩ : Path) ⟨other, second, others⟩ := by
  refine ⟨?_⟩
  change (⟨unplaced leading, unplaced first, unplaced rest⟩ : Path) =
    ⟨unplaced other, unplaced second, unplaced others⟩
  rw [hleading.unplaced_eq, h.unplaced_eq, hrest.unplaced_eq]

instance (marked : Bool) {path other : Path} [h : Alike path other] :
    Alike (Visibility.inside marked path) (.inside marked other) :=
  ⟨congrArg (Visibility.inside marked) h.unplaced_eq⟩

/-- Being inherited is no matter of positions. -/
theorem Alike.inherited_iff {visibility other : Visibility} (h : Alike visibility other) :
    visibility = .inherited ↔ other = .inherited := by
  have heq := h.unplaced_eq
  cases visibility <;> cases other <;> simp [unplaced] at heq ⊢

/-- A path is named alike wherever it stands. -/
theorem Path.text_unplaced (path : Path) : (unplaced path).text = path.text := by
  obtain ⟨leading, first, rest⟩ := path
  have hrest : (unplaced rest).map Ident.text = rest.map Ident.text := by
    rw [unplaced_list, List.map_map]
    rfl
  change (if (unplaced leading).isSome = true then "::" else "") ++
    "::".intercalate (first.text :: (unplaced rest).map Ident.text) = _
  rw [hrest]
  cases leading <;> rfl

/-- The single word of a path is the same without positions. -/
theorem Path.ident?_unplaced (path : Path) : (unplaced path).ident? = unplaced path.ident? := by
  obtain ⟨leading, first, rest⟩ := path
  cases leading <;> cases rest <;> rfl

/-- Alike paths are alike words, or both no single words. -/
theorem Alike.ident? {path other : Path} (h : Alike path other) : Alike path.ident? other.ident? :=
  h.map Path.ident? Path.ident?_unplaced

/-- Alike paths are the same word. -/
theorem Alike.isWord_eq {path other : Path} (h : Alike path other) (text : String) :
    path.isWord text = other.isWord text := by
  unfold Path.isWord
  obtain ⟨ident, ident', hident, hident', halike⟩ | ⟨hnone, hnone'⟩ := h.ident?.options
  · simp only [hident, hident', Option.any_some, halike.text_eq]
  · simp only [hnone, hnone']

/-! ### Attributes -/

instance : Located AttributeBody where
  unplaced
    | .bare => .bare
    | .list delimiter content _ => .list delimiter (unplaced content) .nowhere
    | .assigned _ value => .assigned .nowhere (unplaced value)

instance : Located Attribute := ⟨fun attr =>
  ⟨.nowhere, .nowhere, unplaced attr.path, unplaced attr.body⟩⟩

instance (delimiter : Delimiter) {content other : TokenStream} (first second : Span)
    [h : Alike content other] :
    Alike (AttributeBody.list delimiter content first) (.list delimiter other second) :=
  ⟨congrArg (AttributeBody.list delimiter · .nowhere) h.unplaced_eq⟩

instance {value other : TokenStream} (first second : Span) [h : Alike value other] :
    Alike (AttributeBody.assigned first value) (.assigned second other) :=
  ⟨congrArg (AttributeBody.assigned .nowhere) h.unplaced_eq⟩

instance {path other : Path} {body another : AttributeBody} (first second third fourth : Span)
    [h : Alike path other] [hbody : Alike body another] :
    Alike (⟨first, second, path, body⟩ : Attribute) ⟨third, fourth, other, another⟩ := by
  refine ⟨?_⟩
  change (⟨.nowhere, .nowhere, unplaced path, unplaced body⟩ : Attribute) =
    ⟨.nowhere, .nowhere, unplaced other, unplaced another⟩
  rw [h.unplaced_eq, hbody.unplaced_eq]

/-- Alike attributes have alike paths. -/
theorem Alike.path {attr other : Attribute} (h : Alike attr other) : Alike attr.path other.path :=
  h.map Attribute.path fun _ => rfl

/-- Alike attributes have alike bodies. -/
theorem Alike.body {attr other : Attribute} (h : Alike attr other) : Alike attr.body other.body :=
  h.map Attribute.body fun _ => rfl

/-- Alike bodies are of the same kind. -/
theorem Alike.bodies {body another : AttributeBody} (h : Alike body another) :
    body = .bare ∧ another = .bare ∨
      (∃ delimiter content other first second, body = .list delimiter content first ∧
        another = .list delimiter other second ∧ Alike content other) ∨
      ∃ first second value other, body = .assigned first value ∧
        another = .assigned second other ∧ Alike value other := by
  have heq := h.unplaced_eq
  cases body with
  | bare =>
    cases another with
    | bare => exact .inl ⟨rfl, rfl⟩
    | _ => simp [unplaced] at heq
  | list delimiter content first =>
    cases another with
    | list found other second =>
      have hcontent := (AttributeBody.list.inj heq).2.1
      obtain rfl := (AttributeBody.list.inj heq).1
      exact .inr (.inl ⟨delimiter, content, other, first, second, rfl, rfl, ⟨hcontent⟩⟩)
    | _ => simp [unplaced] at heq
  | assigned first value =>
    cases another with
    | assigned second other =>
      have hvalue := (AttributeBody.assigned.inj heq).2
      exact .inr (.inr ⟨first, second, value, other, rfl, rfl, ⟨hvalue⟩⟩)
    | _ => simp [unplaced] at heq

/-! ### Expressions -/

instance : Located ExprForm where
  unplaced
    | .range _ => .range .nowhere
    | form => form

/-- An expression without its positions. -/
def Expr.withoutPositions : Expr → Expr
  | .literal attributes lit => .literal (unplaced attributes) (unplaced lit)
  | .unary attributes operator _ operand =>
    .unary (unplaced attributes) operator .nowhere operand.withoutPositions
  | .group attributes inner _ => .group (unplaced attributes) inner.withoutPositions .nowhere
  | .other form tokens => .other (unplaced form) (unplaced tokens)

instance : Located Expr := ⟨Expr.withoutPositions⟩

namespace Expr

/-- A literal forgets the positions of its attributes, too. -/
@[simp] theorem unplaced_literal (attributes : TokenStream) (lit : Lit) :
    unplaced (literal attributes lit) = literal (unplaced attributes) (unplaced lit) := rfl

/-- A sign in front of an operand forgets where it is. -/
@[simp] theorem unplaced_unary (attributes : TokenStream) (operator : Char) (sign : Span)
    (operand : Expr) : unplaced (unary attributes operator sign operand) =
      unary (unplaced attributes) operator .nowhere (unplaced operand) := rfl

/-- An invisible group around an expression forgets where it is. -/
@[simp] theorem unplaced_group (attributes : TokenStream) (inner : Expr) (span : Span) :
    unplaced (group attributes inner span) =
      group (unplaced attributes) (unplaced inner) .nowhere := rfl

/-- Any other expression forgets the positions of its tokens. -/
@[simp] theorem unplaced_other (form : ExprForm) (tokens : TokenStream) :
    unplaced (other form tokens) = other (unplaced form) (unplaced tokens) := rfl

/-- The tokens of an expression are those that it has without positions. -/
theorem tokens_unplaced (expr : Expr) : (unplaced expr).tokens = unplaced expr.tokens := by
  induction expr with
  | literal attributes lit => simp [tokens, Lit.tokens_unplaced]
  | unary attributes operator sign operand ih => simp [tokens, ih]
  | group attributes inner span ih => simp [tokens, ih]
  | other form tokens => rfl

/-- Whether an expression is a range does not depend on positions. -/
theorem isRange_unplaced (expr : Expr) : (unplaced expr).isRange = expr.isRange := by
  cases expr with
  | other form tokens => cases form <;> rfl
  | _ => rfl

/-- Whether an expression is a comparison does not depend on positions. -/
theorem isComparison_unplaced (expr : Expr) :
    (unplaced expr).isComparison = expr.isComparison := by
  cases expr with
  | other form tokens => cases form <;> rfl
  | _ => rfl

/-- Whether an expression ends with a block does not depend on positions. -/
theorem isBlock_unplaced (expr : Expr) : (unplaced expr).isBlock = expr.isBlock := by
  cases expr with
  | other form tokens => cases form <;> rfl
  | _ => rfl

/-- What is inside of invisible groups is the same without positions. -/
theorem ungrouped_unplaced (expr : Expr) : (unplaced expr).ungrouped = unplaced expr.ungrouped := by
  induction expr with
  | group attributes inner span ih => exact ih
  | _ => rfl

/-- Attributes are put in front of an expression without a look at positions. -/
theorem withAttributes_unplaced (front : TokenStream) (expr : Expr) :
    (unplaced expr).withAttributes (unplaced front) = unplaced (expr.withAttributes front) := by
  have hempty : (unplaced front).isEmpty = front.isEmpty := List.isEmpty_map
  cases expr with
  | other form tokens =>
    rw [unplaced_other]
    cases form with
    | path qualified plain =>
      change other (if (unplaced front).isEmpty = true then _ else _) _ =
        other (unplaced (if front.isEmpty = true then _ else _)) _
      rw [hempty, unplaced_append]
      split <;> rfl
    | _ => exact congrArg (other _) (unplaced_append front tokens).symm
  | _ => simp [withAttributes]

section

variable {expr other : Expr} [h : Alike expr other]

instance : Alike expr.tokens other.tokens := h.map tokens tokens_unplaced

instance : Alike expr.isRange other.isRange := h.map isRange isRange_unplaced

instance : Alike expr.isComparison other.isComparison := h.map isComparison isComparison_unplaced

instance : Alike expr.isBlock other.isBlock := h.map isBlock isBlock_unplaced

instance : Alike expr.ungrouped other.ungrouped := h.map ungrouped ungrouped_unplaced

instance (front back : TokenStream) [hfront : Alike front back] :
    Alike (expr.withAttributes front) (other.withAttributes back) :=
  ⟨by rw [← withAttributes_unplaced, h.unplaced_eq, hfront.unplaced_eq, withAttributes_unplaced]⟩

instance (attributes others : TokenStream) (lit number : Lit) [hlit : Alike lit number]
    [hothers : Alike attributes others] :
    Alike (literal attributes lit) (literal others number) :=
  ⟨by simp [hlit.unplaced_eq, hothers.unplaced_eq]⟩

instance (attributes others : TokenStream) (operator : Char) (first second : Span)
    [hothers : Alike attributes others] :
    Alike (unary attributes operator first expr) (unary others operator second other) :=
  ⟨by simp [h.unplaced_eq, hothers.unplaced_eq]⟩

instance (attributes others : TokenStream) (first second : Span)
    [hothers : Alike attributes others] :
    Alike (group attributes expr first) (group others other second) :=
  ⟨by simp [h.unplaced_eq, hothers.unplaced_eq]⟩

end

instance (first second : Span) : Alike (ExprForm.range first) (.range second) := ⟨rfl⟩

instance (form also : ExprForm) (tokens others : TokenStream) [hform : Alike form also]
    [hothers : Alike tokens others] : Alike (other form tokens) (other also others) :=
  ⟨by simp [hform.unplaced_eq, hothers.unplaced_eq]⟩

end Expr

/-- Alike forms are equal if they are not those of ranges. -/
theorem Alike.forms {form also : ExprForm} (h : Alike form also) :
    (∃ first second, form = .range first ∧ also = .range second) ∨
      (∀ span, form ≠ .range span) ∧ form = also := by
  have heq := h.unplaced_eq
  cases form <;> cases also <;> simp [unplaced] at heq ⊢ <;> exact heq

/-- Alike expressions have the same shape. -/
@[elab_as_elim] theorem Alike.induction_expr
    {motive : ∀ expr other : Expr, Alike expr other → Prop}
    (literal : ∀ (attributes others : TokenStream) (lit number : Lit) (_ : Alike attributes others)
      (_ : Alike lit number), motive (.literal attributes lit) (.literal others number) inferInstance)
    (unary : ∀ (attributes others : TokenStream) (operator : Char) (first second : Span)
      (expr other : Expr) (_ : Alike attributes others) (h : Alike expr other), motive expr other h →
        motive (.unary attributes operator first expr) (.unary others operator second other)
          inferInstance)
    (group : ∀ (attributes others : TokenStream) (first second : Span) (expr other : Expr)
      (_ : Alike attributes others) (h : Alike expr other), motive expr other h →
        motive (.group attributes expr first) (.group others other second) inferInstance)
    (other : ∀ (form also : ExprForm) (tokens others : TokenStream) (_ : Alike form also)
      (_ : Alike tokens others), motive (.other form tokens) (.other also others) inferInstance)
    {expr another : Expr} (h : Alike expr another) : motive expr another h := by
  have heq := h.unplaced_eq
  induction expr generalizing another with
  | literal attributes lit =>
    cases another with
    | literal others number =>
      obtain ⟨hattributes, hlit⟩ :
          unplaced attributes = unplaced others ∧ unplaced lit = unplaced number := by
        simpa using heq
      exact literal _ _ _ _ ⟨hattributes⟩ ⟨hlit⟩
    | _ => simp at heq
  | unary attributes operator first expr ih =>
    cases another with
    | unary others found second operand =>
      obtain ⟨hattributes, rfl, hexpr⟩ : unplaced attributes = unplaced others ∧
          operator = found ∧ unplaced expr = unplaced operand := by
        simpa using heq
      exact unary _ _ _ _ _ _ _ ⟨hattributes⟩ ⟨hexpr⟩ (ih ⟨hexpr⟩ hexpr)
    | _ => simp at heq
  | group attributes expr first ih =>
    cases another with
    | group others inner second =>
      obtain ⟨hattributes, hexpr⟩ :
          unplaced attributes = unplaced others ∧ unplaced expr = unplaced inner := by
        simpa using heq
      exact group _ _ _ _ _ _ ⟨hattributes⟩ ⟨hexpr⟩ (ih ⟨hexpr⟩ hexpr)
    | _ => simp at heq
  | other form tokens =>
    cases another with
    | other also others =>
      obtain ⟨hform, htokens⟩ : unplaced form = unplaced also ∧ unplaced tokens = unplaced others := by
        simpa using heq
      exact other _ _ _ _ ⟨hform⟩ ⟨htokens⟩
    | _ => simp at heq

/-- Of alike expressions both have only a form and tokens, or none has. -/
theorem Alike.exprs {expr other : Expr} (h : Alike expr other) :
    (∃ form also tokens others, expr = .other form tokens ∧ other = .other also others ∧
        Alike form also ∧ Alike tokens others) ∨
      (∀ form tokens, expr ≠ .other form tokens) ∧ ∀ form tokens, other ≠ .other form tokens := by
  induction h using Alike.induction_expr with
  | other form also tokens others hform htokens =>
    exact .inl ⟨form, also, tokens, others, rfl, rfl, hform, htokens⟩
  | _ => exact .inr ⟨by simp, by simp⟩

/-! ### Items -/

instance : Located Discriminant := ⟨fun discriminant => ⟨.nowhere, unplaced discriminant.value⟩⟩

instance : Located Variant := ⟨fun variant =>
  ⟨unplaced variant.attributes, unplaced variant.ident, unplaced variant.fields,
    unplaced variant.discriminant⟩⟩

instance : Located EnumItem := ⟨fun item =>
  ⟨unplaced item.attributes, unplaced item.visibility, unplaced item.ident, unplaced item.generics,
    unplaced item.constraints, .nowhere, unplaced item.variants, item.trailing⟩⟩

namespace Item

mutual

/-- An item without its positions. -/
def withoutPositions : Item → Item
  | .module name items => .module (unplaced name) (withoutPositionsAll items)
  | .enumeration item => .enumeration (unplaced item)
  | .other => .other

/-- Some items without their positions. -/
def withoutPositionsAll : List Item → List Item
  | [] => []
  | item :: rest => item.withoutPositions :: withoutPositionsAll rest

end

end Item

instance : Located Item := ⟨Item.withoutPositions⟩

/-- Some items forget their positions one by one. -/
theorem Item.withoutPositionsAll_eq (items : List Item) :
    withoutPositionsAll items = unplaced items := by
  induction items with
  | nil => rfl
  | cons item rest ih =>
    rw [withoutPositionsAll, ih]
    rfl

instance (name other : Ident) (items others : List Item) [h : Alike name other]
    [hitems : Alike items others] : Alike (Item.module name items) (.module other others) := by
  refine ⟨?_⟩
  change Item.module (unplaced name) (Item.withoutPositionsAll items) =
    .module (unplaced other) (Item.withoutPositionsAll others)
  rw [Item.withoutPositionsAll_eq, Item.withoutPositionsAll_eq, h.unplaced_eq, hitems.unplaced_eq]

instance (item other : EnumItem) [h : Alike item other] :
    Alike (Item.enumeration item) (.enumeration other) :=
  ⟨congrArg Item.enumeration h.unplaced_eq⟩

instance (value other : Expr) (first second : Span) [h : Alike value other] :
    Alike (⟨first, value⟩ : Discriminant) ⟨second, other⟩ :=
  ⟨congrArg (Discriminant.mk .nowhere) h.unplaced_eq⟩

instance (attributes others : List Attribute) (ident other : Ident) (fields also : Option TokenTree)
    (discriminant further : Option Discriminant) [hattributes : Alike attributes others]
    [hident : Alike ident other] [hfields : Alike fields also]
    [hdiscriminant : Alike discriminant further] :
    Alike (⟨attributes, ident, fields, discriminant⟩ : Variant)
      ⟨others, other, also, further⟩ := by
  refine ⟨?_⟩
  change (⟨unplaced attributes, unplaced ident, unplaced fields, unplaced discriminant⟩ : Variant) =
    ⟨unplaced others, unplaced other, unplaced also, unplaced further⟩
  rw [hattributes.unplaced_eq, hident.unplaced_eq, hfields.unplaced_eq, hdiscriminant.unplaced_eq]

instance (attributes others : List Attribute) (visibility also : Visibility) (ident other : Ident)
    (generics constraints generics' constraints' : TokenStream) (first second : Span)
    (variants further : List Variant) (trailing last : Bool)
    [hattributes : Alike attributes others] [hvisibility : Alike visibility also]
    [hident : Alike ident other] [hgenerics : Alike generics generics']
    [hconstraints : Alike constraints constraints'] [hvariants : Alike variants further]
    [htrailing : Alike trailing last] :
    Alike
      (⟨attributes, visibility, ident, generics, constraints, first, variants, trailing⟩ : EnumItem)
      ⟨others, also, other, generics', constraints', second, further, last⟩ := by
  obtain rfl := htrailing.eq
  refine ⟨?_⟩
  change (⟨unplaced attributes, unplaced visibility, unplaced ident, unplaced generics,
      unplaced constraints, .nowhere, unplaced variants, trailing⟩ : EnumItem) =
    ⟨unplaced others, unplaced also, unplaced other, unplaced generics', unplaced constraints',
      .nowhere, unplaced further, trailing⟩
  rw [hattributes.unplaced_eq, hvisibility.unplaced_eq, hident.unplaced_eq, hgenerics.unplaced_eq,
    hconstraints.unplaced_eq, hvariants.unplaced_eq]

end ValuedEnum
