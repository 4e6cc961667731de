import ValuedEnum.Proofs.Positions.Parser
import ValuedEnum.Proofs.Positions.Sources

/-!
# The grammar and positions

No rule of the grammar decides anything by a position. Alike tokens are read as alike phrases, or
what is wrong with them is the same.
-/

namespace ValuedEnum

open ValuedEnum.Parser Generics

/-- Rules that come to alike results. -/
class Rules.Blind (rules : Rules) : Prop where
  expr : ∀ structs, Parser.Blind (rules.expr structs) (rules.expr structs)
  operand : ∀ structs, Parser.Blind (rules.operand structs) (rules.operand structs)
  bounded : Parser.Blind rules.bounded rules.bounded
  continuation : ∀ (left other : Expr) structs least, Alike left other →
    Parser.Blind (rules.continuation left structs least) (rules.continuation other structs least)
  type : ∀ plus arguments, Parser.Blind (rules.type plus arguments) (rules.type plus arguments)
  bound : Parser.Blind rules.bound rules.bound
  pattern : Parser.Blind rules.pattern rules.pattern
  block : Parser.Blind rules.block rules.block
  item : ∀ attributes others : List Attribute, Alike attributes others →
    Parser.Blind (rules.item attributes) (rules.item others)
  useTree : ∀ root, Parser.Blind (rules.useTree root) (rules.useTree root)

variable (rules : Rules) [h : rules.Blind]

instance (structs : Bool) : Blind (rules.expr structs) (rules.expr structs) := h.expr structs

instance (structs : Bool) : Blind (rules.operand structs) (rules.operand structs) :=
  h.operand structs

instance : Blind rules.bounded rules.bounded := h.bounded

instance (left other : Expr) (structs : Bool) (least : Precedence) [hleft : Alike left other] :
    Blind (rules.continuation left structs least) (rules.continuation other structs least) :=
  h.continuation left other structs least hleft

instance (plus arguments : Bool) :
    Blind (rules.type plus arguments) (rules.type plus arguments) :=
  h.type plus arguments

instance : Blind rules.bound rules.bound := h.bound

instance : Blind rules.pattern rules.pattern := h.pattern

instance : Blind rules.block rules.block := h.block

instance (attributes others : List Attribute) [hattributes : Alike attributes others] :
    Blind (rules.item attributes) (rules.item others) :=
  h.item attributes others hattributes

instance (root : Bool) : Blind (rules.useTree root) (rules.useTree root) := h.useTree root

-- The parsers of items are long, and an instance is found for each step of one.
set_option synthInstance.maxSize 1000000

namespace Path

instance (bound : Nat) : Blind (segmentsParser bound) (segmentsParser bound) := by
  induction bound with
  | zero => unfold segmentsParser; infer_instance
  | succ bound ih =>
    unfold segmentsParser
    refine Blind.bind inferInstance fun seen _ hseen => ?_
    obtain rfl := hseen.eq
    refine blind_ite inferInstance (Blind.bind inferInstance fun ident other hident => ?_)
    refine Blind.bind inferInstance fun more _ hmore => ?_
    obtain rfl := hmore.eq
    refine blind_ite (Blind.bind inferInstance fun _ _ _ => ?_) inferInstance
    refine Blind.bind inferInstance fun rest others hrest => ?_
    obtain ⟨_, _, _, _, rfl, rfl, _, _⟩ | ⟨rfl, rfl⟩ := hrest.lists
    · dsimp only
      infer_instance
    · dsimp only
      infer_instance

instance : Blind parser parser := by
  unfold parser
  extract_lets behind
  have hbehind (leading : Twins (Option Span)) :
      Blind (behind leading.first) (behind leading.second) := by
    refine Blind.bind inferInstance fun tokens others halike => ?_
    rw [halike.sizeAll_eq]
    refine Blind.bind inferInstance fun segments others hsegments => ?_
    obtain ⟨_, _, _, _, rfl, rfl, _, _⟩ | ⟨rfl, rfl⟩ := hsegments.lists
    · dsimp only
      infer_instance
    · dsimp only
      infer_instance
  infer_instance

end Path

namespace Visibility

instance : Blind restriction? restriction? := by
  unfold restriction?
  refine Blind.bind inferInstance fun seen _ hseen => ?_
  obtain rfl := hseen.eq
  refine blind_ite inferInstance (Blind.bind inferInstance fun tried other htried => ?_)
  obtain ⟨⟨fits, _⟩, ⟨_, _⟩, rfl, rfl, hread⟩ | ⟨rfl, rfl⟩ := htried.options
  · obtain rfl := hread.fst.eq
    cases fits <;> (dsimp only; infer_instance)
  · dsimp only
    infer_instance

instance : Blind parser parser := by
  unfold parser
  refine Blind.bind inferInstance fun tokens others halike => ?_
  obtain ⟨inner, span, rest, other, another, back, rfl, rfl, hinner, hrest⟩ | ⟨hnone, hnone'⟩ :=
    halike.invisible
  · obtain ⟨_, _, _, _, rfl, rfl, _, _⟩ | ⟨rfl, rfl⟩ := hinner.lists
    · dsimp only
      infer_instance
    · dsimp only
      infer_instance
  · split
    · exact absurd rfl (hnone _ _ _)
    · split
      · exact absurd rfl (hnone' _ _ _)
      · infer_instance

end Visibility

namespace Attribute

instance : Blind pathParser pathParser := by unfold pathParser; infer_instance

instance : Blind (valueParser rules) (valueParser rules) := by unfold valueParser; infer_instance

instance : Blind (bodyParser rules) (bodyParser rules) := by unfold bodyParser; infer_instance

instance : Blind (contentParser rules) (contentParser rules) := by
  unfold contentParser; infer_instance

instance : Blind (outerParser rules) (outerParser rules) := by unfold outerParser; infer_instance

instance : Blind (outerAll rules) (outerAll rules) := by unfold outerAll; infer_instance

instance : Blind (skipOuter rules) (skipOuter rules) := by unfold skipOuter; infer_instance

instance : Blind (skipInner rules) (skipInner rules) := by unfold skipInner; infer_instance

end Attribute

namespace Generics

section

variable (tokens others : TokenStream) [halike : Alike tokens others]

instance (terminals : List Terminal) :
    Alike (stopsAt terminals tokens) (stopsAt terminals others) := by
  unfold stopsAt; infer_instance

instance : Alike (startsColon tokens) (startsColon others) := by
  unfold startsColon; infer_instance

instance : Alike (pathGoesOn tokens) (pathGoesOn others) := by
  unfold pathGoesOn; infer_instance

instance : Alike (constraintStop tokens) (constraintStop others) := by
  unfold constraintStop; infer_instance

end

instance : Located Piece := ⟨fun piece => ⟨unplaced piece.tokens, piece.isLifetime⟩⟩

instance {tokens others : TokenStream} {isLifetime also : Bool} [h : Alike tokens others]
    [hlifetime : Alike isLifetime also] :
    Alike (⟨tokens, isLifetime⟩ : Piece) ⟨others, also⟩ := by
  rw [hlifetime.eq]
  exact ⟨congrArg (Piece.mk · also) h.unplaced_eq⟩

instance (first second : Piece) [h : Alike first second] :
    Alike first.isLifetime second.isLifetime :=
  h.map Piece.isLifetime fun _ => rfl

instance (first second : Piece) [h : Alike first second] : Alike first.tokens second.tokens :=
  h.map Piece.tokens fun _ => rfl

section

variable (trailing also : Bool) (read others : List Piece) [htrailing : Alike trailing also]
  [hread : Alike read others]
include htrailing

instance : Alike (withCommas trailing read) (withCommas also others) := by
  obtain rfl := htrailing.eq
  induction hread using Alike.induction with
  | nil => exact inferInstanceAs (Alike [] [])
  | cons first second rest others hfirst hrest ih =>
    obtain ⟨_, _, _, _, rfl, rfl, _, _⟩ | ⟨rfl, rfl⟩ := hrest.lists
    · exact inferInstanceAs (Alike (Piece.mk (first.tokens ++ _) _ :: withCommas _ _)
        (Piece.mk (second.tokens ++ _) _ :: withCommas _ _))
    · rw [withCommas, withCommas]
      infer_instance

instance : Alike (arranged trailing read) (arranged also others) := by
  unfold arranged
  extract_lets lifetimes back moved lifetimes' back' moved'
  have : Alike lifetimes lifetimes' := inferInstanceAs (Alike (List.filter _ _) (List.filter _ _))
  have : Alike back back' := inferInstanceAs (Alike (List.filter _ _) (List.filter _ _))
  have : Alike moved moved' := inferInstanceAs (Alike (_ && _ && _) (_ && _ && _))
  infer_instance

end

instance (piece : Parser Bool) [hpiece : Blind piece piece] :
    Blind (pieces rules piece) (pieces rules piece) := by
  unfold pieces; infer_instance

instance : Blind (constant rules) (constant rules) := by unfold constant; infer_instance

instance : Blind (callArguments rules) (callArguments rules) := by
  unfold callArguments; infer_instance

instance : Blind (lifetimeParameter rules) (lifetimeParameter rules) := by
  unfold lifetimeParameter; infer_instance

instance : Blind (quantifier rules) (quantifier rules) := by unfold quantifier; infer_instance

instance : Blind (argument rules) (argument rules) := by unfold argument; infer_instance

instance : Blind (angleArguments rules) (angleArguments rules) := by
  unfold angleArguments; infer_instance

instance (inExpr : Bool) : Blind (segment rules inExpr) (segment rules inExpr) := by
  unfold segment; infer_instance

instance (inExpr : Bool) (goes : TokenStream → Bool)
    [hgoes : ∀ twins : Twins TokenStream, Alike (goes twins.first) (goes twins.second)]
    (limit : Nat) (form : PathForm) :
    Blind (moreSegments rules inExpr goes limit form) (moreSegments rules inExpr goes limit form) := by
  induction limit generalizing form with
  | zero => unfold moreSegments; infer_instance
  | succ limit ih => unfold moreSegments; infer_instance

instance (inExpr : Bool) : Blind (plainPath rules inExpr) (plainPath rules inExpr) := by
  unfold plainPath; infer_instance

instance (form : PathForm) : Blind (callPath rules form) (callPath rules form) := by
  unfold callPath; infer_instance

instance : Blind (capture rules) (capture rules) := by unfold capture; infer_instance

instance : Blind (traitBound rules) (traitBound rules) := by unfold traitBound; infer_instance

instance : Blind (boundRule rules) (boundRule rules) := by unfold boundRule; infer_instance

instance (inExpr : Bool) : Blind (path rules inExpr) (path rules inExpr) := by
  unfold path; infer_instance

instance (plus : Bool) (start other : Span) (fault : String) :
    Blind (boundSum rules plus start fault) (boundSum rules plus other fault) := by
  unfold boundSum; infer_instance

instance : Blind (typeParameter rules) (typeParameter rules) := by
  unfold typeParameter; infer_instance

instance : Blind (constantParameter rules) (constantParameter rules) := by
  unfold constantParameter; infer_instance

instance : Blind (parameter rules) (parameter rules) := by unfold parameter; infer_instance

instance : Blind (parameters rules) (parameters rules) := by unfold parameters; infer_instance

instance : Blind (constraint rules) (constraint rules) := by unfold constraint; infer_instance

instance : Blind (constraints rules) (constraints rules) := by unfold constraints; infer_instance

end Generics

namespace PatternRule

section

variable (tokens others : TokenStream) [halike : Alike tokens others]

instance : Alike (startsBar tokens) (startsBar others) := by unfold startsBar; infer_instance

instance : Alike (startsPath tokens) (startsPath others) := by unfold startsPath; infer_instance

end

instance : Blind (alternatives rules) (alternatives rules) := by
  unfold alternatives; infer_instance

instance : Blind (rangeEnd rules) (rangeEnd rules) := by unfold rangeEnd; infer_instance

instance : Blind rangeSign rangeSign := by unfold rangeSign; infer_instance

instance : Blind (rangeRest rules) (rangeRest rules) := by unfold rangeRest; infer_instance

instance : Blind (list rules) (list rules) := by unfold list; infer_instance

instance : Blind (field rules) (field rules) := by unfold field; infer_instance

instance : Blind (pathPattern rules) (pathPattern rules) := by unfold pathPattern; infer_instance

instance : Blind (binding rules) (binding rules) := by unfold binding; infer_instance

instance : Blind (rule rules) (rule rules) := by unfold rule; infer_instance

end PatternRule

namespace ExprRule

section

variable (tokens others : TokenStream) [halike : Alike tokens others]

instance : Alike (startsDot tokens) (startsDot others) := by unfold startsDot; infer_instance

instance (structs : Bool) : Alike (rangeStops structs tokens) (rangeStops structs others) := by
  unfold rangeStops; infer_instance

instance : Alike (startsExpr tokens) (startsExpr others) := by unfold startsExpr; infer_instance

instance : Alike (startsBlock tokens) (startsBlock others) := by unfold startsBlock; infer_instance

instance : Alike (startsAsync tokens) (startsAsync others) := by unfold startsAsync; infer_instance

instance : Alike (startsClosure tokens) (startsClosure others) := by
  unfold startsClosure; infer_instance

instance : Alike (startsPath tokens) (startsPath others) := by unfold startsPath; infer_instance

end

/-- The next operator of alike tokens is the same. -/
theorem operator?_eq {tokens others : TokenStream} (halike : Alike tokens others) :
    tokens.operator? = others.operator? := by
  unfold TokenStream.operator?
  rw [funext fun entry : String × Precedence => halike.startsWith_eq (.sign entry.1)]

/-- An operator has the same precedence everywhere. -/
theorem precedence_eq {tokens others : TokenStream} (halike : Alike tokens others) :
    tokens.precedence = others.precedence := by
  unfold TokenStream.precedence
  simp only [operator?_eq halike, halike.startsWith_eq]

instance (form : ExprForm) (first second : Parser Unit) [hfirst : Blind first second] :
    Blind (compound form first) (compound form second) := by
  unfold compound; infer_instance

instance (left other : Expr) (form : ExprForm) (first second : Parser Unit)
    [hleft : Alike left other] [hfirst : Blind first second] :
    Blind (extended left form first) (extended other form second) := by
  unfold extended; infer_instance

instance : Blind (attributes rules) (attributes rules) := by
  unfold attributes
  extract_lets starts
  have hstarts (twins : Twins TokenStream) : Alike (starts twins.first) (starts twins.second) := by
    obtain ⟨tokens, others, halike⟩ := twins
    obtain ⟨_, _, _, _, _, _, rfl, rfl, _, _⟩ | ⟨hnone, hnone'⟩ := halike.invisible
    · exact inferInstanceAs (Alike false false)
    · dsimp only [starts]
      split
      · exact absurd rfl (hnone _ _ _)
      · infer_instance
  infer_instance

instance : Blind (arguments rules) (arguments rules) := by unfold arguments; infer_instance

instance (lit other : Lit) [hlit : Alike lit other] : Blind (index lit) (index other) := by
  have hkind : lit.kind = other.kind := by rw [Lit.kind, Lit.kind, hlit.lit_text_eq]
  unfold index
  rw [hkind]
  split <;> infer_instance

instance (span other dot also : Span) (parts : List (List Char)) :
    Blind (indices span dot parts) (indices other also parts) := by
  induction parts with
  | nil => exact inferInstanceAs (Blind (pure ()) (pure ()))
  | cons part rest ih =>
    by_cases hrest : rest = []
    · subst hrest
      exact inferInstanceAs (Blind (index _) (index _))
    · rw [indices.eq_3 _ _ _ _ hrest, indices.eq_3 _ _ _ _ hrest]
      infer_instance

instance : Blind member member := by unfold member; infer_instance

instance : Blind (afterDot rules) (afterDot rules) := by unfold afterDot; infer_instance

instance : Blind (dotRest rules) (dotRest rules) := by unfold dotRest; infer_instance

instance (limit : Nat) (left other : Expr) [hleft : Alike left other] :
    Blind (trailers rules limit left) (trailers rules limit other) := by
  induction limit generalizing left other with
  | zero => unfold trailers; infer_instance
  | succ limit ih => unfold trailers; infer_instance

instance : Blind rangeSign rangeSign := by unfold rangeSign; infer_instance

instance (structs : Bool) (precedence : Precedence) (limit : Nat) (right other : Expr)
    [hright : Alike right other] :
    Blind (rightOperand.climb rules structs precedence limit right)
      (rightOperand.climb rules structs precedence limit other) := by
  induction limit generalizing right other with
  | zero => unfold rightOperand.climb; infer_instance
  | succ limit ih =>
    unfold rightOperand.climb
    refine Blind.bind inferInstance fun tokens others halike => ?_
    simp only [precedence_eq halike, halike.sizeAll_eq]
    refine blind_ite (Blind.bind inferInstance fun longer other hlonger => ?_) inferInstance
    refine Blind.bind inferInstance fun rest back hrest => ?_
    rw [hrest.sizeAll_eq]
    infer_instance

instance (structs : Bool) (precedence : Precedence) :
    Blind (rightOperand rules structs precedence) (rightOperand rules structs precedence) := by
  unfold rightOperand; infer_instance

instance (structs closed also : Bool) [hclosed : Alike closed also] :
    Blind (rangeRest rules structs closed) (rangeRest rules structs also) := by
  unfold rangeRest; infer_instance

instance : Blind castEnd castEnd := by
  unfold castEnd
  extract_lets report
  have hreport (kind? : Option String) : Blind (report kind?) (report kind?) := by
    cases kind? <;> exact inferInstanceAs (Blind (_ : Parser Unit) _)
  infer_instance

instance (structs : Bool) (least : Precedence) (limit : Nat) (left other : Expr)
    [hleft : Alike left other] :
    Blind (continuationRule rules structs least limit left)
      (continuationRule rules structs least limit other) := by
  induction limit generalizing left other with
  | zero => unfold continuationRule; infer_instance
  | succ limit ih =>
    unfold continuationRule
    refine Blind.bind inferInstance fun tokens others halike => ?_
    simp only [operator?_eq halike]
    cases others.operator? with
    | none => dsimp only; infer_instance
    | some found => dsimp only; infer_instance

instance : Blind (structField rules) (structField rules) := by unfold structField; infer_instance

instance (limit : Nat) : Blind (structFields rules limit) (structFields rules limit) := by
  induction limit with
  | zero => unfold structFields; infer_instance
  | succ limit ih => unfold structFields; infer_instance

instance (structs : Bool) (form : PathForm) :
    Blind (pathRest rules structs form) (pathRest rules structs form) := by
  unfold pathRest; infer_instance

instance (structs : Bool) : Blind (pathExpr rules structs) (pathExpr rules structs) := by
  unfold pathExpr; infer_instance

instance (structs : Bool) : Blind (groupExpr rules structs) (groupExpr rules structs) := by
  unfold groupExpr
  refine Blind.bind inferInstance fun ⟨inner, span⟩ ⟨inner', span'⟩ hread => ?_
  have hinner : Alike inner inner' := hread.fst
  dsimp only
  obtain ⟨form, also, tokens, others, rfl, rfl, hform, htokens⟩ | ⟨hnone, hnone'⟩ := hinner.exprs
  · obtain ⟨_, _, rfl, rfl⟩ | ⟨_, rfl⟩ := hform.forms
    · dsimp only
      infer_instance
    · cases form with
      | path qualified plain =>
        dsimp only
        refine Blind.bind inferInstance fun ⟨⟨length, rest⟩, more⟩ ⟨⟨_, rest'⟩, more'⟩ hread => ?_
        obtain rfl := hread.fst.fst.eq
        have hrest : Alike rest rest' := hread.fst.snd
        have hmore : Alike more more' := hread.snd
        obtain ⟨sign, sign', rfl, rfl⟩ | ⟨_, rfl⟩ := hrest.forms
        · cases length <;> exact inferInstanceAs
            (Blind (pure (Expr.other (.range sign) (tokens ++ more)))
              (pure (Expr.other (.range sign') (others ++ more'))))
        · dsimp only
          split <;> infer_instance
      | _ => dsimp only; infer_instance
  · split
    · exact absurd rfl (hnone _ _)
    · split
      · exact absurd rfl (hnone' _ _)
      · infer_instance

instance : Blind (parenthesized rules) (parenthesized rules) := by
  unfold parenthesized; infer_instance

instance : Blind (bracketed rules) (bracketed rules) := by unfold bracketed; infer_instance

instance : Blind (condition rules) (condition rules) := by unfold condition; infer_instance

instance (limit : Nat) : Blind (branches rules limit) (branches rules limit) := by
  induction limit with
  | zero => unfold branches; infer_instance
  | succ limit ih => unfold branches; infer_instance

instance : Blind (loopExpr rules) (loopExpr rules) := by unfold loopExpr; infer_instance

instance : Blind (whileExpr rules) (whileExpr rules) := by unfold whileExpr; infer_instance

instance : Blind (forExpr rules) (forExpr rules) := by unfold forExpr; infer_instance

instance : Blind (labeled rules) (labeled rules) := by unfold labeled; infer_instance

instance (structs : Bool) : Blind (letExpr rules structs) (letExpr rules structs) := by
  unfold letExpr; infer_instance

instance (structs : Bool) : Blind (breakExpr rules structs) (breakExpr rules structs) := by
  unfold breakExpr; infer_instance

instance (text : String) : Blind (jump rules text) (jump rules text) := by
  unfold jump; infer_instance

instance : Blind (closureArgument rules) (closureArgument rules) := by
  unfold closureArgument; infer_instance

instance (structs : Bool) : Blind (closure rules structs) (closure rules structs) := by
  unfold closure; infer_instance

instance : Blind (arm rules) (arm rules) := by unfold arm; infer_instance

instance : Blind (matchExpr rules) (matchExpr rules) := by unfold matchExpr; infer_instance

instance : Blind (blockExpr rules) (blockExpr rules) := by unfold blockExpr; infer_instance

instance : Blind builtin builtin := by unfold builtin; infer_instance

instance (structs : Bool) : Blind (atom rules structs) (atom rules structs) := by
  unfold atom
  refine Blind.bind inferInstance fun tokens others halike => ?_
  obtain ⟨_, _, _, _, _, _, rfl, rfl, _, _⟩ | ⟨hnone, hnone'⟩ := halike.invisible
  · dsimp only
    infer_instance
  · apply Blind.of_eq
    · split
      · exact absurd rfl (hnone _ _ _)
      · rfl
    · split
      · exact absurd rfl (hnone' _ _ _)
      · rfl
    · infer_instance

instance (structs : Bool) (front others : TokenStream) [hfront : Alike front others] :
    Blind (trailed rules structs front) (trailed rules structs others) := by
  unfold trailed
  refine Blind.bind inferInstance fun first second hfirst => ?_
  refine Blind.bind inferInstance fun expr other hexpr => ?_
  obtain ⟨form, also, tokens, others, rfl, rfl, hform, htokens⟩ | ⟨hnone, hnone'⟩ := hexpr.exprs
  · obtain ⟨_, _, rfl, rfl⟩ | ⟨hrange, rfl⟩ := hform.forms
    · dsimp only
      infer_instance
    · cases form with
      | range sign => exact absurd rfl (hrange sign)
      | _ => dsimp only; infer_instance
  · split
    · exact absurd rfl (hnone _ _)
    · split
      · exact absurd rfl (hnone' _ _)
      · infer_instance

instance (structs : Bool) : Blind (referenceExpr rules structs) (referenceExpr rules structs) := by
  unfold referenceExpr; infer_instance

instance (structs : Bool) : Blind (operandRule rules structs) (operandRule rules structs) := by
  unfold operandRule
  refine Blind.bind inferInstance fun front _ hfront => ?_
  refine Blind.bind inferInstance fun tokens others halike => ?_
  obtain ⟨_, _, _, _, _, _, rfl, rfl, _, _⟩ | ⟨hnone, hnone'⟩ := halike.invisible
  · dsimp only
    infer_instance
  · apply Blind.of_eq
    · split
      · exact absurd rfl (hnone _ _ _)
      · rfl
    · split
      · exact absurd rfl (hnone' _ _ _)
      · rfl
    · simp only [halike.startsWith_eq]
      refine blind_ite inferInstance ?_
      split <;> infer_instance

instance (structs : Bool) : Blind (rule rules structs) (rule rules structs) := by
  unfold rule; infer_instance

instance : Blind (boundedRule rules) (boundedRule rules) := by
  unfold boundedRule
  refine Blind.bind inferInstance fun front _ hfront => ?_
  refine Blind.bind inferInstance fun tokens others halike => ?_
  obtain ⟨_, _, _, _, _, _, rfl, rfl, _, _⟩ | ⟨hnone, hnone'⟩ := halike.invisible
  · dsimp only
    infer_instance
  · apply Blind.of_eq
    · split
      · exact absurd rfl (hnone _ _ _)
      · rfl
    · split
      · exact absurd rfl (hnone' _ _ _)
      · rfl
    · infer_instance

end ExprRule

namespace TypeRule

instance : Blind abi abi := by unfold abi; infer_instance

instance : Blind (moreBounds rules) (moreBounds rules) := by unfold moreBounds; infer_instance

instance : Blind (functionArgument rules) (functionArgument rules) := by
  unfold functionArgument; infer_instance

instance : Blind (functionType rules) (functionType rules) := by unfold functionType; infer_instance

instance (plus quantified : Bool) :
    Blind (pathType rules plus quantified) (pathType rules plus quantified) := by
  unfold pathType; infer_instance

instance : Blind (parenthesized rules) (parenthesized rules) := by
  unfold parenthesized; infer_instance

instance (plus : Bool) : Blind (parenthesizedType rules plus) (parenthesizedType rules plus) := by
  unfold parenthesizedType
  extract_lets optional
  have hoptional : Blind optional optional := by
    refine Blind.bind inferInstance fun tokens others halike => ?_
    obtain ⟨⟨inner, _, _⟩, ⟨inner', _, _⟩, hgroup, hother, hread⟩ | ⟨hgroup, hother⟩ :=
      (halike.group? .parenthesis).options
    · have hinner : Alike inner inner' := hread.fst
      simp only [hgroup, hother]
      infer_instance
    · simp only [hgroup, hother]
      infer_instance
  refine Blind.bind inferInstance fun summed _ hsummed => ?_
  obtain rfl := hsummed.eq
  refine Blind.bind inferInstance fun ⟨inner, span⟩ ⟨_, span'⟩ hread => ?_
  obtain rfl := hread.fst.eq
  dsimp only
  split <;> infer_instance

instance : Blind (bracketed rules) (bracketed rules) := by unfold bracketed; infer_instance

instance : Blind (pointer rules) (pointer rules) := by unfold pointer; infer_instance

instance : Blind (reference rules) (reference rules) := by unfold reference; infer_instance

instance (arguments : Bool) : Blind (grouped rules arguments) (grouped rules arguments) := by
  unfold grouped; infer_instance

instance : Blind (quantified rules) (quantified rules) := by unfold quantified; infer_instance

instance (plus arguments : Bool) :
    Blind (rule rules plus arguments) (rule rules plus arguments) := by
  unfold rule
  refine Blind.bind inferInstance fun tokens others halike => ?_
  obtain ⟨_, _, _, _, _, _, rfl, rfl, _, _⟩ | ⟨hnone, hnone'⟩ := halike.invisible
  · dsimp only
    infer_instance
  · apply Blind.of_eq
    · split
      · exact absurd rfl (hnone _ _ _)
      · rfl
    · split
      · exact absurd rfl (hnone' _ _ _)
      · rfl
    · infer_instance

end TypeRule

namespace ItemRule

section

variable (tokens others : TokenStream) [halike : Alike tokens others]

instance : Alike (startsItem tokens) (startsItem others) := by
  unfold startsItem
  infer_instance

instance : Alike (startsParameters tokens) (startsParameters others) := by
  unfold startsParameters
  infer_instance

end

instance : Blind invocation invocation := by unfold invocation; infer_instance

instance : Blind (letStatement rules) (letStatement rules) := by
  unfold letStatement
  refine Blind.bind inferInstance fun _ _ _ => Blind.bind inferInstance fun _ _ _ => ?_
  refine Blind.bind inferInstance fun typed _ htyped => ?_
  obtain rfl := htyped.eq
  extract_lets ended behind
  have hended : Blind (ended ()) (ended ()) := inferInstanceAs (Blind (take _) _)
  have hbehind : Blind (behind ()) (behind ()) := by
    refine Blind.bind inferInstance fun given _ hgiven => ?_
    obtain rfl := hgiven.eq
    refine blind_ite (Blind.bind inferInstance fun value other hvalue => ?_) hended
    extract_lets braced braced'
    have hbraced : braced = braced' := by
      have hlast : Alike value.tokens.getLast? other.tokens.getLast? := inferInstance
      obtain ⟨tree, tree', htree, htree', halike⟩ | ⟨hnil, hnil'⟩ := hlast.options
      · simp only [braced, braced', htree, htree']
        obtain ⟨delimiter, _, _, _, _, rfl, rfl⟩ | ⟨hnone, hnone'⟩ := halike.groups
        · cases delimiter <;> rfl
        · split
          · simp_all
          · split <;> simp_all
      · simp only [braced, braced', hnil, hnil']
    rw [hbraced]
    infer_instance
  infer_instance

instance : Blind (statement rules) (statement rules) := by
  unfold statement
  refine Blind.bind inferInstance fun attributes others hattributes => ?_
  refine Blind.bind inferInstance fun kind _ hkind => ?_
  obtain rfl := hkind.eq
  split
  · infer_instance
  · refine Blind.bind inferInstance fun tokens tokens' halike => ?_
    extract_lets grouped grouped'
    have hgrouped : grouped = grouped' := by
      obtain ⟨_, _, _, _, _, _, rfl, rfl, _, _⟩ | ⟨hnone, hnone'⟩ := halike.invisible
      · rfl
      · have hfalse : grouped = false := by
          dsimp only [grouped]
          split
          · exact absurd rfl (hnone _ _ _)
          · rfl
        have hfalse' : grouped' = false := by
          dsimp only [grouped']
          split
          · exact absurd rfl (hnone' _ _ _)
          · rfl
        rw [hfalse, hfalse']
    have hitem : startsItem tokens = startsItem tokens' := Alike.eq inferInstance
    rw [hgrouped, hitem, halike.startsWith_eq]
    refine blind_ite inferInstance (blind_ite inferInstance ?_)
    refine Blind.bind inferInstance fun expr other hexpr => ?_
    refine Blind.bind inferInstance fun ended _ hended => ?_
    obtain rfl := hended.eq
    refine blind_ite inferInstance ?_
    obtain ⟨form, also, _, _, rfl, rfl, hform, _⟩ | ⟨hnone, hnone'⟩ := hexpr.exprs
    · obtain ⟨_, _, rfl, rfl⟩ | ⟨_, rfl⟩ := hform.forms
      · infer_instance
      · cases form with
        | invocation braced => cases braced <;> (dsimp only; infer_instance)
        | _ => dsimp only; infer_instance
    · split
      · exact absurd rfl (hnone _ _)
      · split
        · exact absurd rfl (hnone' _ _)
        · infer_instance

instance (limit : Nat) : Blind (statements rules limit) (statements rules limit) := by
  induction limit with
  | zero => unfold statements; infer_instance
  | succ limit ih => unfold statements; infer_instance

instance : Blind (blockRule rules) (blockRule rules) := by unfold blockRule; infer_instance

instance : Blind (namedField rules) (namedField rules) := by unfold namedField; infer_instance

instance : Blind (unnamedField rules) (unnamedField rules) := by unfold unnamedField; infer_instance

instance : Blind (namedFields rules) (namedFields rules) := by unfold namedFields; infer_instance

instance : Blind (unnamedFields rules) (unnamedFields rules) := by
  unfold unnamedFields; infer_instance

instance : Blind (variant rules) (variant rules) := by unfold variant; infer_instance

instance (attributes others : List Attribute) [hattributes : Alike attributes others] :
    Blind (enumeration rules attributes) (enumeration rules others) := by
  unfold enumeration; infer_instance

instance (safe : Bool) : Blind (functionFront safe) (functionFront safe) := by
  unfold functionFront; infer_instance

instance (safe : Bool) : Blind (startsFunction safe) (startsFunction safe) := by
  unfold startsFunction; infer_instance

instance : Blind (receiver rules) (receiver rules) := by unfold receiver; infer_instance

instance : Blind (parameter rules) (parameter rules) := by
  unfold parameter
  refine Blind.bind inferInstance fun _ _ _ => Blind.bind inferInstance fun variadic _ hvariadic => ?_
  obtain rfl := hvariadic.eq
  refine blind_ite inferInstance (Blind.bind inferInstance fun found _ hfound => ?_)
  obtain rfl := hfound.eq
  split <;> infer_instance

instance (safe : Bool) : Blind (signature rules safe) (signature rules safe) := by
  unfold signature; infer_instance

instance : Blind (function rules) (function rules) := by unfold function; infer_instance

instance : Blind (constantItem rules) (constantItem rules) := by unfold constantItem; infer_instance

instance : Blind (staticItem rules) (staticItem rules) := by unfold staticItem; infer_instance

instance : Blind (typeItem rules) (typeItem rules) := by unfold typeItem; infer_instance

instance : Blind (structItem rules) (structItem rules) := by unfold structItem; infer_instance

instance : Blind (unionItem rules) (unionItem rules) := by unfold unionItem; infer_instance

instance : Blind invocationItem invocationItem := by unfold invocationItem; infer_instance

instance : Blind invocationMember invocationMember := by unfold invocationMember; infer_instance

instance : Blind (member rules) (member rules) := by
  unfold member
  refine Blind.bind inferInstance fun _ _ _ => Blind.bind inferInstance fun found other hfound => ?_
  obtain ⟨⟨visibility, preset, isFunction, tokens⟩, ⟨visibility', _, _, tokens'⟩, rfl, rfl, hread⟩ |
    ⟨rfl, rfl⟩ := hfound.options
  · have hvisibility : Alike visibility visibility' := hread.fst
    obtain rfl := hread.snd.fst.eq
    obtain rfl := hread.snd.snd.fst.eq
    have htokens : Alike tokens tokens' := hread.snd.snd.snd
    dsimp only
    simp only [hvisibility.inherited_iff]
    infer_instance
  · infer_instance

instance : Blind (members rules) (members rules) := by unfold members; infer_instance

instance : Blind (traitItem rules) (traitItem rules) := by unfold traitItem; infer_instance

instance : Blind (implItem rules) (implItem rules) := by unfold implItem; infer_instance

instance : Blind (foreignItem rules) (foreignItem rules) := by
  unfold foreignItem
  refine Blind.bind inferInstance fun _ _ _ => ?_
  refine Blind.bind inferInstance fun visibility visibility' hvisibility => ?_
  simp only [hvisibility.inherited_iff]
  infer_instance

instance : Blind (foreignModule rules) (foreignModule rules) := by
  unfold foreignModule; infer_instance

instance : Blind (externItem rules) (externItem rules) := by
  unfold externItem
  refine Blind.bind inferInstance fun found other hfound => ?_
  obtain ⟨tokens, tokens', rfl, rfl, htokens⟩ | ⟨rfl, rfl⟩ := hfound.options
  · dsimp only
    infer_instance
  · infer_instance

instance (root : Bool) : Blind (useTreeRule rules root) (useTreeRule rules root) := by
  unfold useTreeRule; infer_instance

instance : Blind (useItem rules) (useItem rules) := by unfold useItem; infer_instance

instance : Blind (moduleItem rules) (moduleItem rules) := by unfold moduleItem; infer_instance

instance : Blind declarationItem declarationItem := by unfold declarationItem; infer_instance

instance : Blind (unsafeItem rules) (unsafeItem rules) := by
  unfold unsafeItem
  refine Blind.bind inferInstance fun found other hfound => ?_
  obtain ⟨tokens, tokens', rfl, rfl, htokens⟩ | ⟨rfl, rfl⟩ := hfound.options
  · dsimp only
    simp only [htokens.startsWith_eq]
    infer_instance
  · infer_instance

instance (first second : Parser Unit) [hfirst : Blind first second] :
    Blind (passed first) (passed second) := by
  unfold passed; infer_instance

instance (attributes others : List Attribute) [hattributes : Alike attributes others] :
    Blind (rule rules attributes) (rule rules others) := by
  unfold rule
  refine Blind.bind inferInstance fun found other hfound => ?_
  obtain ⟨⟨visibility, isFunction, tokens⟩, ⟨visibility', _, tokens'⟩, rfl, rfl, hread⟩ |
    ⟨rfl, rfl⟩ := hfound.options
  · have hvisibility : Alike visibility visibility' := hread.fst
    obtain rfl := hread.snd.fst.eq
    have htokens : Alike tokens tokens' := hread.snd.snd
    dsimp only
    simp only [hvisibility.inherited_iff]
    infer_instance
  · infer_instance

end ItemRule

/-! ### All phrases -/

namespace Grammar

instance (limit : Nat) : Rules.Blind ⟨limit, fun phrase => step rules phrase⟩ where
  expr structs := inferInstanceAs
    (Blind (ExprRule.rule rules structs) (ExprRule.rule rules structs))
  operand structs := inferInstanceAs
    (Blind (ExprRule.operandRule rules structs) (ExprRule.operandRule rules structs))
  bounded := inferInstanceAs (Blind (ExprRule.boundedRule rules) (ExprRule.boundedRule rules))
  continuation left other structs least _ := inferInstanceAs
    (Blind (ExprRule.continuationRule rules structs least rules.limit left)
      (ExprRule.continuationRule rules structs least rules.limit other))
  type plus arguments := inferInstanceAs
    (Blind (TypeRule.rule rules plus arguments) (TypeRule.rule rules plus arguments))
  bound := inferInstanceAs (Blind (boundRule rules) (boundRule rules))
  pattern := inferInstanceAs (Blind (PatternRule.rule rules) (PatternRule.rule rules))
  block := inferInstanceAs (Blind (ItemRule.blockRule rules) (ItemRule.blockRule rules))
  item attributes others _ := inferInstanceAs
    (Blind (ItemRule.rule rules attributes) (ItemRule.rule rules others))
  useTree root := inferInstanceAs
    (Blind (ItemRule.useTreeRule rules root) (ItemRule.useTreeRule rules root))

/-- Down to any depth the rules come to alike results. -/
instance (limit depth : Nat) : (Grammar.rules limit depth).Blind := by
  induction depth with
  | zero =>
    have hfails {α : Type} [Located α] : Blind (expectedAmong [] : Parser α) (expectedAmong []) :=
      inferInstance
    exact ⟨fun _ => hfails, fun _ => hfails, hfails, fun _ _ _ _ _ => hfails, fun _ _ => hfails,
      hfails, hfails, hfails, fun _ _ _ => hfails, fun _ => hfails⟩
  | succ depth ih => exact inferInstanceAs (Rules.Blind ⟨limit, fun phrase => step _ phrase⟩)

/-- What is read of alike tokens is alike, or wrong in the same way. -/
theorem alike_read {α : Type} [Located α] {rule : Rules → Parser α}
    (hrule : ∀ rules : Rules, rules.Blind → Parser.Blind (rule rules) (rule rules))
    {scope other : Scope} (hscope : Alike scope other) {tokens others : TokenStream}
    (htokens : Alike tokens others) :
    Alike (read rule scope tokens) (read rule other others) := by
  unfold read rulesFor
  rw [htokens.sizeAll_eq]
  exact (hrule _ inferInstance).run hscope htokens

end Grammar

end ValuedEnum
