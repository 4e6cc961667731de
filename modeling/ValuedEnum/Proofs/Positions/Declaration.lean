import ValuedEnum.Declaration
import ValuedEnum.Proofs.Grouping
import ValuedEnum.Proofs.Positions.Grammar

/-!
# Declarations and positions

What is read off attributes and variants does not depend on where they stand. Alike attributes hold
alike options, types and values, or are wrong in the same way.
-/

namespace ValuedEnum

open ValuedEnum.Parser

/-! ### Values -/

instance : Located ValueType := ⟨fun type => type⟩
instance : Unlocated ValueType := ⟨fun _ => rfl⟩
instance : Located Value := ⟨fun value => ⟨value.type, value.negative, unplaced value.lit⟩⟩
instance : Located IntegerType := ⟨fun type => type⟩
instance : Unlocated IntegerType := ⟨fun _ => rfl⟩

/-- Values of alike literals are alike if they have one type and one sign. -/
theorem alike_value (type : ValueType) (negative : Bool) {lit other : Lit} (h : Alike lit other) :
    Alike (⟨type, negative, lit⟩ : Value) ⟨type, negative, other⟩ :=
  ⟨congrArg (Value.mk type negative) h.unplaced_eq⟩

/-- Faults with one cause are alike wherever they are. -/
theorem alike_error {α : Type} [Located α] (cause : Cause) (first second : Span) :
    Alike (.error ⟨cause, first⟩ : Except Problem α) (.error ⟨cause, second⟩) := ⟨rfl⟩

/-- Steps that go on alike after alike results come to alike results. -/
theorem Alike.bind {α β : Type} [Located α] [Located β] {first second : Except Problem α}
    {next after : α → Except Problem β} (h : Alike first second)
    (hnext : ∀ result other, Alike result other → Alike (next result) (after other)) :
    Alike (first >>= next) (second >>= after) := by
  obtain ⟨result, other, rfl, rfl, hresult⟩ | ⟨fault, other, rfl, rfl, hfault⟩ := h.results
  · exact hnext result other hresult
  · exact ⟨congrArg Except.error hfault.unplaced_eq⟩

/-- Alike results are alike. -/
theorem alike_pure {α : Type} [Located α] {first second : α} (h : Alike first second) :
    Alike (pure first : Except Problem α) (pure second) :=
  ⟨congrArg Except.ok h.unplaced_eq⟩

/-- Alike literals are of one kind. -/
theorem Alike.kind_eq {lit other : Lit} (h : Alike lit other) : lit.kind = other.kind := by
  rw [Lit.kind, Lit.kind, h.lit_text_eq]

/-- A suffix names the same type everywhere, or is wrong everywhere. -/
theorem alike_ofSuffix (suffix : List Char) (preset : ValueType)
    (named : String → Option ValueType) (cause : Cause) (first second : Span) :
    Alike (ValueType.ofSuffix suffix preset named ⟨cause, first⟩)
      (ValueType.ofSuffix suffix preset named ⟨cause, second⟩) := by
  unfold ValueType.ofSuffix
  split
  · exact ⟨rfl⟩
  · split
    · exact ⟨rfl⟩
    · exact alike_error _ _ _

/-- Alike literals have one type, or are wrong in the same way. -/
theorem alike_ofLit {lit other : Lit} (h : Alike lit other) :
    Alike (ValueType.ofLit lit) (ValueType.ofLit other) := by
  unfold ValueType.ofLit
  rw [h.kind_eq]
  cases other.kind with
  | integer value suffix => exact alike_ofSuffix _ _ _ _ _ _
  | float suffix => exact alike_ofSuffix _ _ _ _ _ _
  | cString => exact alike_error _ _ _
  | other => exact alike_error _ _ _
  | _ => exact ⟨rfl⟩

/-- Alike expressions have alike values, or are wrong in the same way. -/
theorem alike_ofExpr {expr other : Expr} (h : Alike expr other) :
    Alike (Value.ofExpr expr) (Value.ofExpr other) := by
  induction h using Alike.induction_expr with
  | literal attributes others lit number _ hlit =>
    refine (alike_ofLit hlit).bind fun type _ htype => ?_
    obtain rfl := htype.eq
    exact alike_pure (alike_value type false hlit)
  | unary attributes others operator first second expr other _ hexpr _ =>
    -- A number is read right behind a minus sign only; every other sign is one fault for any
    -- operand.
    by_cases hminus : operator = '-'
    · subst hminus
      induction hexpr using Alike.induction_expr with
      | literal inside also lit number _ hlit =>
        have hnumber : lit.isNumber = number.isNumber := by
          rw [Lit.isNumber, Lit.isNumber, hlit.kind_eq]
        simp only [Value.ofExpr, hnumber]
        split
        · refine (alike_ofLit hlit).bind fun type _ htype => ?_
          obtain rfl := htype.eq
          split
          · exact alike_error _ _ _
          · have hvalue := alike_value type true hlit
            exact ⟨congrArg Except.ok hvalue.unplaced_eq⟩
        · exact alike_error _ _ _
      | _ => exact alike_error _ _ _
    · have hfails (attributes : TokenStream) (sign : Span) (operand : Expr) :
          Value.ofExpr (.unary attributes operator sign operand) =
            .error ⟨.notALiteral, (Expr.unary attributes operator sign operand).span⟩ := by
        unfold Value.ofExpr
        split
        · exact absurd rfl hminus
        · rfl
      rw [hfails, hfails]
      exact alike_error _ _ _
  | group attributes others first second expr other _ _ ih => exact ih
  | other form also tokens others hform htokens => exact alike_error _ _ _

/-- Alike lists of expressions have alike values, or the same one is wrong. -/
theorem alike_ofExprs {exprs others : List Expr} (h : Alike exprs others) :
    Alike (Value.ofExprs exprs) (Value.ofExprs others) := by
  induction h using Alike.induction with
  | nil => exact ⟨rfl⟩
  | cons expr other exprs others hexpr hexprs ih =>
    refine (alike_ofExpr hexpr).bind fun value value' hvalue => ih.bind fun values values' hvalues => ?_
    exact alike_pure inferInstance

/-! ### Ordinals -/

/-- Alike literals are the same ordinal. -/
theorem ofLit?_eq {lit other : Lit} (h : Alike lit other) :
    Ordinal.ofLit? lit = Ordinal.ofLit? other := by
  rw [Ordinal.ofLit?, Ordinal.ofLit?, h.kind_eq]

/-- Alike expressions are the same ordinal. -/
theorem ofExpr?_eq {expr other : Expr} (h : Alike expr other) :
    Ordinal.ofExpr? expr = Ordinal.ofExpr? other := by
  induction h using Alike.induction_expr with
  | literal attributes others lit number _ hlit => exact ofLit?_eq hlit
  | unary attributes others operator first second expr other _ hexpr _ =>
    by_cases hminus : operator = '-'
    · subst hminus
      have hungrouped : Alike expr.ungrouped other.ungrouped := inferInstance
      simp only [Ordinal.ofExpr?]
      generalize expr.ungrouped = inner, other.ungrouped = further at hungrouped
      induction hungrouped using Alike.induction_expr with
      | literal inside also lit number _ hlit => simp only [ofLit?_eq hlit]
      | _ => rfl
    · rw [Ordinal.ofExpr?_unary_of_ne hminus, Ordinal.ofExpr?_unary_of_ne hminus]
  | group attributes others first second expr other _ _ ih => exact ih
  | other form also tokens others hform htokens => rfl

/-! ### Options of a wrapper -/

namespace WrapperOptions

instance : Located WrapperOptions := ⟨fun options =>
  ⟨unplaced options.name, options.convertOrdinal, options.throwOnCastFailure⟩⟩

instance : Located Flags := ⟨fun flags => flags⟩
instance : Unlocated Flags := ⟨fun _ => rfl⟩

instance (name other : Ident) (convertOrdinal throwOnCastFailure : Bool) [h : Alike name other] :
    Alike (⟨name, convertOrdinal, throwOnCastFailure⟩ : WrapperOptions)
      ⟨other, convertOrdinal, throwOnCastFailure⟩ :=
  ⟨congrArg (WrapperOptions.mk · convertOrdinal throwOnCastFailure) h.unplaced_eq⟩

/-- A flag is set wherever its key stands, or is unknown or set twice in the same way. -/
theorem alike_set (flags : Flags) {key other : Ident} (h : Alike key other) (value : Bool) :
    Alike (flags.set key value) (flags.set other value) := by
  unfold Flags.set
  rw [h.text_eq]
  split
  · split
    · exact alike_error _ _ _
    · exact ⟨rfl⟩
  · split
    · split
      · exact alike_error _ _ _
      · exact ⟨rfl⟩
    · exact alike_error _ _ _

/-- The text of a literal is read at the position of the literal. -/
theorem alike_nameOf (lit other : Lit) (content suffix : List Char) :
    Alike (nameOf lit content suffix) (nameOf other content suffix) := by
  unfold nameOf
  split
  · exact ⟨rfl⟩
  · rename_i tokens _
    have htokens (first second : Span) :
        Alike (TokenTree.withSpanAll first tokens) (TokenTree.withSpanAll second tokens) :=
      ⟨by rw [TokenTree.unplaced_withSpanAll, TokenTree.unplaced_withSpanAll]⟩
    have hname : Blind Parser.name Parser.name := inferInstance
    have hscope : Alike (⟨lit.span, .invisible⟩ : Scope) ⟨other.span, .invisible⟩ := inferInstance
    obtain ⟨ident, ident', hident, hident', halike⟩ | ⟨fault, fault', hfault, hfault', halike⟩ :=
      (hname.run hscope (htokens lit.span other.span)).results
    · simp only [hident, hident']
      split
      · exact ⟨congrArg Except.ok halike.unplaced_eq⟩
      · exact alike_error _ _ _
    · simp only [hfault, hfault']
      exact ⟨congrArg Except.error halike.unplaced_eq⟩

instance : Blind nameParser nameParser := by
  unfold nameParser
  refine Blind.bind inferInstance fun seen _ hseen => ?_
  obtain rfl := hseen.eq
  refine blind_ite (Blind.bind inferInstance fun lit other hlit => ?_) inferInstance
  rw [hlit.kind_eq]
  split
  · rename_i content suffix _
    obtain ⟨ident, ident', hident, hident', halike⟩ | ⟨fault, fault', hfault, hfault', halike⟩ :=
      (alike_nameOf lit other content suffix).results
    · rw [hident, hident']
      exact inferInstanceAs (Blind (pure ident) (pure ident'))
    · rw [hfault, hfault']
      exact ⟨fun _ _ => ⟨congrArg Except.error halike.unplaced_eq⟩⟩
  · infer_instance

instance : Blind boolParser boolParser := by
  unfold boolParser
  refine Blind.bind inferInstance fun tokens others halike => ?_
  obtain ⟨⟨lit, rest⟩, ⟨other, back⟩, hlit, hother, hread⟩ | ⟨hlit, hother⟩ := halike.lit?.options
  · have hlit' : Alike lit other := hread.fst
    have hrest : Alike rest back := hread.snd
    simp only [hlit, hother, hlit'.kind_eq]
    split <;> infer_instance
  · simp only [hlit, hother]
    infer_instance

instance (limit : Nat) (flags : Flags) :
    Blind (flagsParser limit flags) (flagsParser limit flags) := by
  induction limit generalizing flags with
  | zero => exact inferInstanceAs (Blind (pure flags) (pure flags))
  | succ limit ih =>
    unfold flagsParser
    refine Blind.bind inferInstance fun ended _ hended => ?_
    obtain rfl := hended.eq
    refine blind_ite inferInstance (Blind.bind inferInstance fun _ _ _ => ?_)
    refine Blind.bind inferInstance fun trailing _ htrailing => ?_
    obtain rfl := htrailing.eq
    refine blind_ite inferInstance (Blind.bind inferInstance fun key other hkey => ?_)
    refine Blind.bind inferInstance fun _ _ _ => Blind.bind inferInstance fun value _ hvalue => ?_
    obtain rfl := hvalue.eq
    obtain ⟨result, _, hset, hset', hresult⟩ | ⟨fault, fault', hset, hset', hfault⟩ :=
      (alike_set flags hkey value).results
    · obtain rfl := hresult.eq
      simp only [hset, hset']
      exact ih result
    · simp only [hset, hset']
      exact ⟨fun _ _ => ⟨congrArg Except.error hfault.unplaced_eq⟩⟩

instance : Blind parser parser := by
  unfold parser
  extract_lets behind
  have hbehind : Blind (behind ()) (behind ()) := by
    refine Blind.bind inferInstance fun name other hname => ?_
    refine Blind.bind inferInstance fun tokens others halike => ?_
    rw [halike.sizeAll_eq]
    infer_instance
  infer_instance

/-- Alike tokens hold the same options, or are wrong in the same way. -/
theorem alike_ofTokens {scope other : Scope} (hscope : Alike scope other)
    {tokens others : TokenStream} (h : Alike tokens others) :
    Alike (ofTokens scope tokens) (ofTokens other others) :=
  Blind.run inferInstance hscope h

end WrapperOptions

/-! ### Attributes -/

namespace Host

/-- The arguments of alike attributes are read alike. -/
theorem alike_attributeArguments {α : Type} [Located α] {attr other : Attribute}
    (h : Alike attr other) {read : Scope → TokenStream → Except Problem α}
    (hread : ∀ {scope also : Scope} {tokens others : TokenStream}, Alike scope also →
      Alike tokens others → Alike (read scope tokens) (read also others)) :
    Alike (attributeArguments attr read) (attributeArguments other read) := by
  have htext : attr.path.text = other.path.text :=
    h.path.congr Path.text Path.text_unplaced
  unfold attributeArguments
  rw [htext]
  obtain ⟨hbody, hbody'⟩ | ⟨_, _, _, _, _, hbody, hbody', hcontent⟩ |
    ⟨_, _, _, _, hbody, hbody', _⟩ := h.body.bodies
  · simp only [hbody, hbody']
    exact alike_error _ _ _
  · simp only [hbody, hbody']
    exact hread inferInstance hcontent
  · simp only [hbody, hbody']
    exact alike_error _ _ _

/-- Alike attributes hold alike values, or are wrong in the same way. -/
theorem alike_attributeValues {attr other : Attribute} (h : Alike attr other) :
    Alike (attributeValues attr) (attributeValues other) := by
  unfold attributeValues
  obtain ⟨hbody, hbody'⟩ | ⟨_, _, _, _, _, hbody, hbody', hcontent⟩ |
    ⟨_, _, _, _, hbody, hbody', _⟩ := h.body.bodies
  · simp only [hbody, hbody']
    exact ⟨rfl⟩
  · simp only [hbody, hbody']
    have hexprs (rules : Rules) (_ : rules.Blind) : Blind
        (do return (← commaTerminated rules.limit rules.expr).1)
        (do return (← commaTerminated rules.limit rules.expr).1) := inferInstance
    exact (Grammar.alike_read hexprs inferInstance hcontent).bind fun _ _ => alike_ofExprs
  · simp only [hbody, hbody']
    exact alike_error _ _ _

end Host

namespace Declaration

/-- Only representation attributes decide the representation. -/
theorem representation_filter (attributes : List Attribute) :
    representation (attributes.filter (·.path.isWord "repr")) = representation attributes := by
  induction attributes with
  | nil => rfl
  | cons attr rest ih =>
    cases hattr : attr.path.isWord "repr" with
    | true => simp only [List.filter_cons, hattr, if_true, representation, ih]
    | false =>
      simp only [List.filter_cons, hattr, representation, Bool.false_eq_true, if_false, ih]

/-- Alike hints name the same primitive type. -/
theorem primitive?_eq {content other : Path × AttributeBody} (h : Alike content other) :
    primitive? content = primitive? other := by
  have hpath : Alike content.1 other.1 := h.fst
  unfold primitive?
  obtain ⟨ident, ident', hident, hident', halike⟩ | ⟨hnone, hnone'⟩ := hpath.ident?.options
  · simp only [hident, hident', Option.bind_some, halike.text_eq]
  · simp only [hnone, hnone']

/-- The first primitive type of alike hints is the same one. -/
theorem findSome?_primitive?_eq {hints others : List (Path × AttributeBody)}
    (h : Alike hints others) : hints.findSome? primitive? = others.findSome? primitive? := by
  induction h using Alike.induction with
  | nil => rfl
  | cons hint other rest others hhint _ ih =>
    rw [List.findSome?_cons, List.findSome?_cons, primitive?_eq hhint, ih]

/-- Alike attributes give the same representation, or are wrong in the same way. -/
theorem alike_representation {attributes others : List Attribute} (h : Alike attributes others) :
    Alike (representation attributes) (representation others) := by
  have hcontents (rules : Rules) (_ : rules.Blind) : Blind
      (do return (← commaTerminated rules.limit (Attribute.contentParser rules)).1)
      (do return (← commaTerminated rules.limit (Attribute.contentParser rules)).1) := inferInstance
  induction h using Alike.induction with
  | nil => exact ⟨rfl⟩
  | cons attr other rest others hattr _ ih =>
    rw [representation, representation, hattr.path.isWord_eq]
    split
    · have harguments : Alike (Host.attributeArguments attr Grammar.contents)
          (Host.attributeArguments other Grammar.contents) :=
        Host.alike_attributeArguments hattr fun hscope htokens =>
          Grammar.alike_read hcontents hscope htokens
      obtain ⟨hints, hints', hread, hread', hhints⟩ | ⟨fault, fault', hread, hread', hfault⟩ :=
        harguments.results
      · simp only [hread, hread', findSome?_primitive?_eq hhints]
        split
        · exact ⟨rfl⟩
        · exact ih
      · simp only [hread, hread']
        exact ⟨congrArg Except.error hfault.unplaced_eq⟩
    · exact ih

end Declaration

/-! ### Members and declarations -/

instance : Located Int64 := ⟨fun ordinal => ordinal⟩

instance : Located Member := ⟨fun member =>
  ⟨unplaced member.ident, member.ordinal, unplaced member.values⟩⟩

instance : Located Fault where
  unplaced
    | .invalid problem => .invalid (unplaced problem)
    | fault => fault

instance : Located Resolution := ⟨fun resolution =>
  ⟨unplaced resolution.members, unplaced resolution.fault⟩⟩

instance : Located Resolution.Step where
  unplaced
    | .untagged ordinal => .untagged ordinal
    | .member member => .member (unplaced member)
    | .fault fault => .fault (unplaced fault)

instance (ident other : Ident) (ordinal : Int64) (values others : List Value)
    [h : Alike ident other] [hvalues : Alike values others] :
    Alike (⟨ident, ordinal, values⟩ : Member) ⟨other, ordinal, others⟩ := by
  refine ⟨?_⟩
  change (⟨unplaced ident, ordinal, unplaced values⟩ : Member) =
    ⟨unplaced other, ordinal, unplaced others⟩
  rw [h.unplaced_eq, hvalues.unplaced_eq]

instance (problem other : Problem) [h : Alike problem other] :
    Alike (Fault.invalid problem) (.invalid other) := ⟨congrArg Fault.invalid h.unplaced_eq⟩

/-- Alike faults are alike results. -/
theorem alike_fault {α : Type} [Located α] {fault other : Fault} (h : Alike fault other) :
    Alike (.error fault : Except Fault α) (.error other) := ⟨congrArg Except.error h.unplaced_eq⟩

instance (member other : Member) [h : Alike member other] :
    Alike (Resolution.Step.member member) (.member other) :=
  ⟨congrArg Resolution.Step.member h.unplaced_eq⟩

instance (fault other : Fault) [h : Alike fault other] :
    Alike (Resolution.Step.fault fault) (.fault other) :=
  ⟨congrArg Resolution.Step.fault h.unplaced_eq⟩

/-- Alike steps are of the same kind. -/
theorem Alike.steps {step other : Resolution.Step} (h : Alike step other) :
    (∃ ordinal, step = .untagged ordinal ∧ other = .untagged ordinal) ∨
      (∃ member also, step = .member member ∧ other = .member also ∧ Alike member also) ∨
      ∃ fault also, step = .fault fault ∧ other = .fault also ∧ Alike fault also := by
  have heq := h.unplaced_eq
  cases step with
  | untagged ordinal =>
    cases other with
    | untagged also => exact .inl ⟨ordinal, rfl, by rw [Resolution.Step.untagged.inj heq]⟩
    | _ => simp [unplaced] at heq
  | member member =>
    cases other with
    | member also => exact .inr (.inl ⟨member, also, rfl, rfl, ⟨Resolution.Step.member.inj heq⟩⟩)
    | _ => simp [unplaced] at heq
  | fault fault =>
    cases other with
    | fault also => exact .inr (.inr ⟨fault, also, rfl, rfl, ⟨Resolution.Step.fault.inj heq⟩⟩)
    | _ => simp [unplaced] at heq

instance (members others : List Member) (fault also : Option Fault) [h : Alike members others]
    [hfault : Alike fault also] : Alike (⟨members, fault⟩ : Resolution) ⟨others, also⟩ := by
  refine ⟨?_⟩
  change (⟨unplaced members, unplaced fault⟩ : Resolution) = ⟨unplaced others, unplaced also⟩
  rw [h.unplaced_eq, hfault.unplaced_eq]

instance : Located Declaration := ⟨fun declaration =>
  { declaration with
    visibility := unplaced declaration.visibility
    ident := unplaced declaration.ident
    wrapper := unplaced declaration.wrapper
    variants := unplaced declaration.variants
    members := unplaced declaration.members }⟩

/-- Alike faults have the same message. -/
theorem Alike.message_eq {fault other : Fault} (h : Alike fault other) :
    fault.message = other.message := by
  cases fault with
  | invalid problem =>
    cases other with
    | invalid another =>
      have hunplaced : unplaced problem = unplaced another := Fault.invalid.inj h.unplaced_eq
      have hproblem : Alike problem another := ⟨hunplaced⟩
      exact congrArg Cause.message hproblem.cause_eq
    | panicked panic => exact nomatch h.unplaced_eq
  | panicked panic =>
    cases other with
    | invalid problem => exact nomatch h.unplaced_eq
    | panicked another => rw [Fault.panicked.inj h.unplaced_eq]

/-- Alike members have values of the same types. -/
theorem Alike.types_eq {member other : Member} (h : Alike member other) :
    member.types = other.types := by
  refine h.congr Member.types fun member => ?_
  change (unplaced member.values).map Value.type = member.values.map Value.type
  rw [unplaced_list, List.map_map]
  rfl

/-- Alike members have the same types in common, or none. -/
theorem commonTypes?_eq {members others : List Member} (h : Alike members others) :
    commonTypes? members = commonTypes? others := by
  induction h using Alike.induction with
  | nil => rfl
  | cons member other rest others hmember hrest _ =>
    have hall : (rest.all fun also => also.types = member.types) =
        others.all fun also => also.types = other.types := by
      rw [hmember.types_eq]
      have hsame (twins : Twins Member) : Alike (decide (twins.first.types = other.types))
          (decide (twins.second.types = other.types)) := by
        rw [twins.alike.types_eq]
        infer_instance
      exact Alike.eq inferInstance
    rw [commonTypes?_cons, commonTypes?_cons, hall, hmember.types_eq]

end ValuedEnum
