import ValuedEnum.Proofs.FirstFault
import ValuedEnum.Proofs.Nesting
import ValuedEnum.Proofs.Values

/-!
# Which enumerations have a unit

The usual host reads attributes and never panics. This file says which enumerations it accepts in
terms of their attributes and variants alone, and what it finds wrong with the others.
-/

namespace ValuedEnum

/-! ### Values -/

namespace Attribute

/-- An attribute that holds values: none, or those of a list of expressions. -/
def HasValues (attr : Attribute) : Prop :=
  attr.body = .bare ∨ ∃ exprs, attr.HasArguments Grammar.exprs exprs ∧
    ∀ expr ∈ exprs, ∃ value, Value.ofExpr expr = .ok value

/-- What is wrong with an attribute that ought to hold values. -/
inductive LacksValues (attr : Attribute) : Problem → Prop
  | assigned {equals : Span} {value : TokenStream} (hbody : attr.body = .assigned equals value) :
      LacksValues attr ⟨.notAList, attr.content.span⟩
  | unreadable {delimiter : Delimiter} {content : TokenStream} {span : Span} {problem : Problem}
      (hbody : attr.body = .list delimiter content span)
      (hread : Grammar.exprs ⟨span.last, .invisible⟩ content = .error problem) :
      LacksValues attr problem
  | literal {front back : List Expr} {expr : Expr} {problem : Problem}
      (hexprs : attr.HasArguments Grammar.exprs (front ++ expr :: back))
      (hfront : ∀ earlier ∈ front, ∃ value, Value.ofExpr earlier = .ok value)
      (hexpr : Value.ofExpr expr = .error problem) :
      LacksValues attr problem

variable {attr : Attribute}

/-- Values are read from an attribute if it holds any. -/
theorem attributeValues_ok_iff :
    (∃ values, Host.attributeValues attr = .ok values) ↔ attr.HasValues := by
  unfold Host.attributeValues HasValues HasArguments
  cases attr.body with
  | bare => simp
  | assigned equals value => simp
  | list delimiter content span =>
    cases hexprs : Grammar.exprs ⟨span.last, .invisible⟩ content with
    | error problem => simp [hexprs, bind, Except.bind, and_assoc]
    | ok exprs => simpa [hexprs, bind, Except.bind, and_assoc] using Value.ofExprs_ok_iff

/-- Otherwise the problem says what is wrong with the attribute. -/
theorem attributeValues_error_iff {problem : Problem} :
    Host.attributeValues attr = .error problem ↔ attr.LacksValues problem := by
  constructor
  · intro h
    unfold Host.attributeValues at h
    split at h
    · simp at h
    · exact Except.error.inj h ▸ .assigned ‹_›
    · rename_i delimiter content span hbody
      cases hexprs : Grammar.exprs ⟨span.last, .invisible⟩ content with
      | error other =>
        obtain rfl : other = problem := by simpa [hexprs, bind, Except.bind] using h
        exact .unreadable hbody hexprs
      | ok exprs =>
        obtain ⟨front, expr, back, rfl, hfront, hexpr⟩ :=
          Value.ofExprs_error_iff.mp (by simpa [hexprs, bind, Except.bind] using h)
        exact .literal ⟨delimiter, content, span, hbody, hexprs⟩ hfront hexpr
  · intro h
    cases h with
    | assigned hbody => simp [Host.attributeValues, hbody]
    | unreadable hbody hread => simp [Host.attributeValues, hbody, hread, bind, Except.bind]
    | literal hexprs hfront hexpr =>
      obtain ⟨delimiter, content, span, hbody, hread⟩ := hexprs
      simpa [Host.attributeValues, hbody, hread, bind, Except.bind] using
        Value.ofExprs_error_iff.mpr ⟨_, _, _, rfl, hfront, hexpr⟩

/-- An attribute holds values, or something is wrong with it. -/
theorem hasValues_or_lacks (attr : Attribute) :
    attr.HasValues ∨ ∃ problem, attr.LacksValues problem := by
  rw [← attributeValues_ok_iff]
  simp only [← attributeValues_error_iff]
  cases Host.attributeValues attr <;> simp

/-- Where something is wrong with an attribute there are no values. -/
theorem LacksValues.not_has {problem : Problem} (h : attr.LacksValues problem) :
    ¬ attr.HasValues := by
  rw [← attributeValues_error_iff] at h
  simp [← attributeValues_ok_iff, h]

end Attribute

/-! ### What a schema asks for -/

namespace Schema

/-- An enumeration with options, variants and a representation, all of whose variants are units and
hold values if they are asked for any. -/
structure Accepts (schema : Schema) (item : EnumItem) : Prop where
  options : ∃ attr options, item.attributes.find? schema.isWrapper = some attr ∧
    attr.HasArguments WrapperOptions.ofTokens options
  variants : item.variants ≠ []
  /-- Only the attributes up to the one that names a primitive are read. -/
  representation : ∀ (index : Nat) (attr : Attribute), item.attributes[index]? = some attr →
    attr.path.isWord "repr" = true →
    (∀ earlier ∈ item.attributes.take index, ¬ earlier.NamesPrimitive) →
    ∃ hints, attr.HasArguments Grammar.contents hints
  fields : ∀ variant ∈ item.variants, variant.fields = none
  values : ∀ variant ∈ item.variants, ∀ attr,
    variant.attributes.find? schema.isValue = some attr → attr.HasValues

/-- What a check finds wrong with the attributes and variants of an enumeration. -/
inductive Breaks (schema : Schema) (item : EnumItem) : Check → Problem → Prop
  | options {attr : Attribute} {problem : Problem}
      (hattr : item.attributes.find? schema.isWrapper = some attr)
      (hproblem : attr.LacksArguments WrapperOptions.ofTokens problem) :
      Breaks schema item .options problem
  | variants (hvariants : item.variants = []) :
      Breaks schema item .variants ⟨.noVariants, item.braces⟩
  | representation {index : Nat} {problem : Problem}
      (hindex : item.RepresentationBreaks index problem) :
      Breaks schema item (.representation index) problem
  | fields {index : Nat} {variant : Variant} {tree : TokenTree}
      (hvariant : item.variants[index]? = some variant) (hfields : variant.fields = some tree) :
      Breaks schema item (.variant index .fields) ⟨.notAUnitVariant, tree.span⟩
  | values {index : Nat} {variant : Variant} {attr : Attribute} {problem : Problem}
      (hvariant : item.variants[index]? = some variant)
      (hattr : variant.attributes.find? schema.isValue = some attr)
      (hproblem : attr.LacksValues problem) :
      Breaks schema item (.variant index .values) problem

variable {schema : Schema} {item : EnumItem}

/-- The host of a schema finds exactly what is wrong with the attributes and variants. -/
theorem breaks_ofSchema_iff {check : Check} {fault : Fault} :
    item.Breaks (.ofSchema schema) check fault ↔
      ∃ problem, schema.Breaks item check problem ∧ fault = .invalid problem := by
  constructor
  · intro h
    cases h with
    | @options problem hoptions =>
      simp only [Host.ofSchema, Except.ok.injEq, Option.map_eq_some_iff] at hoptions
      obtain ⟨attr, hattr, hproblem⟩ := hoptions
      exact ⟨problem, .options hattr (Attribute.attributeArguments_eq_error_iff.mp hproblem), rfl⟩
    | variants hvariants => exact ⟨_, .variants hvariants, rfl⟩
    | representation hindex => exact ⟨_, .representation hindex, rfl⟩
    | variant hvariant hfault =>
      cases hfault with
      | fields hfields => exact ⟨_, .fields hvariant hfields, rfl⟩
      | initializer hinitializer => simp [Host.ofSchema] at hinitializer
      | @values problem hvalues =>
        simp only [Host.ofSchema, Except.ok.injEq, Option.map_eq_some_iff] at hvalues
        obtain ⟨attr, hattr, hproblem⟩ := hvalues
        have hlacks := Attribute.attributeValues_error_iff.mp hproblem
        exact ⟨problem, .values hvariant hattr hlacks, rfl⟩
      | valuesPanic hvalues => simp [Host.ofSchema] at hvalues
  · rintro ⟨problem, h, rfl⟩
    cases h with
    | options hattr hproblem =>
      exact .options (by simp [Host.ofSchema, hattr,
        Attribute.attributeArguments_eq_error_iff.mpr hproblem])
    | variants hvariants => exact .variants hvariants
    | representation hindex => exact .representation hindex
    | fields hvariant hfields => exact .variant hvariant (.fields hfields)
    | values hvariant hattr hproblem =>
      exact .variant hvariant (.values (by simp [Host.ofSchema, hattr,
        Attribute.attributeValues_error_iff.mpr hproblem]))

/-- The first fault for the usual host is the first problem that its schema has with an
enumeration. -/
theorem isFirst_ofSchema_iff {check : Check} {fault : Fault} :
    Check.IsFirst (item.Breaks (.ofSchema schema)) check fault ↔
      ∃ problem, Check.IsFirst (schema.Breaks item) check problem ∧ fault = .invalid problem := by
  constructor
  · rintro ⟨hfault, hfirst⟩
    obtain ⟨problem, hproblem, rfl⟩ := breaks_ofSchema_iff.mp hfault
    exact ⟨problem, ⟨hproblem, fun earlier other hother =>
      hfirst earlier _ (breaks_ofSchema_iff.mpr ⟨other, hother, rfl⟩)⟩, rfl⟩
  · rintro ⟨problem, ⟨hproblem, hfirst⟩, rfl⟩
    refine ⟨breaks_ofSchema_iff.mpr ⟨problem, hproblem, rfl⟩, fun earlier other hother => ?_⟩
    obtain ⟨another, hanother, rfl⟩ := breaks_ofSchema_iff.mp hother
    exact hfirst earlier another hanother

/-- An annotated enumeration is accepted if nothing is wrong with it. -/
theorem accepts_iff {attr : Attribute}
    (hattr : item.attributes.find? schema.isWrapper = some attr) :
    schema.Accepts item ↔ ∀ check problem, ¬ schema.Breaks item check problem := by
  constructor
  · intro haccepts check problem hbreaks
    cases hbreaks with
    | options hagain hproblem =>
      obtain ⟨other, options, hother, hoptions⟩ := haccepts.options
      obtain rfl := Option.some.inj (hother.symm.trans hagain)
      exact hproblem.not_has hoptions
    | variants hvariants => exact haccepts.variants hvariants
    | @representation index _ hindex =>
      obtain ⟨attr, hattr, hword, hproblem, hfront⟩ := hindex
      obtain ⟨hints, hhints⟩ := haccepts.representation index attr hattr hword hfront
      exact hproblem.not_has hhints
    | fields hvariant hfields =>
      simp [haccepts.fields _ (List.mem_of_getElem? hvariant)] at hfields
    | values hvariant hvalue hproblem =>
      exact hproblem.not_has (haccepts.values _ (List.mem_of_getElem? hvariant) _ hvalue)
  -- Each check finds a problem or what it asks for. So where none finds a problem, all is there.
  · intro hnone
    refine ⟨?options, fun h => hnone _ _ (.variants h), ?representation, ?fields, ?values⟩
    case options =>
      rcases attr.hasArguments_or_lacks WrapperOptions.ofTokens with ⟨options, h⟩ | ⟨problem, h⟩
      · exact ⟨attr, options, hattr, h⟩
      · exact absurd (.options hattr h) (hnone _ problem)
    case representation =>
      intro index attr hattr hword hfront
      rcases attr.hasArguments_or_lacks Grammar.contents with hhints | ⟨problem, h⟩
      · exact hhints
      · exact absurd (.representation ⟨attr, hattr, hword, h, hfront⟩) (hnone _ problem)
    case fields =>
      intro variant hvariant
      obtain ⟨index, hindex⟩ := List.mem_iff_getElem?.mp hvariant
      cases hfields : variant.fields with
      | none => rfl
      | some tree => exact absurd (.fields hindex hfields) (hnone _ _)
    case values =>
      intro variant hvariant attr hattr
      obtain ⟨index, hindex⟩ := List.mem_iff_getElem?.mp hvariant
      rcases attr.hasValues_or_lacks with hvalues | ⟨problem, h⟩
      · exact hvalues
      · exact absurd (.values hindex hattr h) (hnone _ problem)

end Schema

/-! ### Outcomes -/

namespace Found

/-- Whatever is found has the options that its host gives it. -/
theorem wrapperOptions_of_mem {host : Host} {file : SourceFile} {all : List Found}
    (hall : host.found file = .ok all) {found : Found} (hfound : found ∈ all) :
    host.wrapperOptions found.item = .ok (some found.options) :=
  (Item.options_of_mem_foundAll hall found hfound).1

/-- What the host of a schema finds has an attribute that asks for a wrapper. -/
theorem exists_wrapper {schema : Schema} {found : Found}
    (hoptions : (Host.ofSchema schema).wrapperOptions found.item = .ok (some found.options)) :
    ∃ attr, found.item.attributes.find? schema.isWrapper = some attr := by
  simp only [Host.ofSchema, Except.ok.injEq, Option.map_eq_some_iff] at hoptions
  obtain ⟨attr, hattr, _⟩ := hoptions
  exact ⟨attr, hattr⟩

/-- The host of a schema makes a unit of exactly the enumerations that the schema accepts. -/
theorem outcome_ofSchema_ok_iff {schema : Schema} {found : Found}
    (hoptions : (Host.ofSchema schema).wrapperOptions found.item = .ok (some found.options)) :
    (∃ unit, found.outcome (.ofSchema schema) = .ok unit) ↔ schema.Accepts found.item := by
  obtain ⟨attr, hattr⟩ := exists_wrapper hoptions
  rw [outcome_ok_iff hoptions, Schema.accepts_iff hattr]
  constructor
  · intro hnone check problem hproblem
    exact hnone check _ (Schema.breaks_ofSchema_iff.mpr ⟨problem, hproblem, rfl⟩)
  · intro hnone check fault hfault
    obtain ⟨problem, hproblem, _⟩ := Schema.breaks_ofSchema_iff.mp hfault
    exact hnone check problem hproblem

/-- What the host of a schema reports is the problem of the first check that finds any. -/
theorem outcome_ofSchema_error_iff {schema : Schema} {found : Found}
    (hoptions : (Host.ofSchema schema).wrapperOptions found.item = .ok (some found.options))
    {diagnostic : Diagnostic} :
    found.outcome (.ofSchema schema) = .error diagnostic ↔
      ∃ check problem, Check.IsFirst (schema.Breaks found.item) check problem ∧
        diagnostic = ⟨found.fullName, .invalid problem⟩ := by
  rw [outcome_error_iff hoptions]
  constructor
  · rintro ⟨check, fault, hfirst, rfl⟩
    obtain ⟨problem, hproblem, rfl⟩ := Schema.isFirst_ofSchema_iff.mp hfirst
    exact ⟨check, problem, hproblem, rfl⟩
  · rintro ⟨check, problem, hproblem, rfl⟩
    exact ⟨check, _, Schema.isFirst_ofSchema_iff.mpr ⟨problem, hproblem, rfl⟩, rfl⟩

end Found

namespace Host

/-- Every annotated enumeration of a file has an outcome of its own. If the host names them all,
then an enumeration has a unit if no check finds anything wrong with it, and else the fault of the
first check that does; a panic is such a fault, and its text is the message. The host of a schema
always names them, accepts those with the attributes and variants that the schema asks for, and else
reports the first problem. -/
theorem outcome_of_first_fault (file : SourceFile) :
    (∀ (host : Host) (all : List Found), host.found file = .ok all →
      ∃ generation, host.generate file = .ok generation ∧
        generation.outcomes = all.map (Found.outcome host) ∧
        ∀ found ∈ all,
          ((∃ unit, found.outcome host = .ok unit) ↔
            ∀ check fault, ¬ found.item.Breaks host check fault) ∧
          ∀ diagnostic, found.outcome host = .error diagnostic ↔
            ∃ check fault, Check.IsFirst (found.item.Breaks host) check fault ∧
              diagnostic = ⟨found.fullName, fault⟩) ∧
    ((∀ text, (Fault.panicked (.text text)).message = "generator panicked: " ++ text) ∧
      (Fault.panicked .silent).message = "generator panicked: unknown cause") ∧
    ∀ schema, ∃ all generation, (ofSchema schema).found file = .ok all ∧
      (ofSchema schema).generate file = .ok generation ∧
      generation.outcomes = all.map (Found.outcome (ofSchema schema)) ∧
      ∀ found ∈ all,
        ((∃ unit, found.outcome (ofSchema schema) = .ok unit) ↔ schema.Accepts found.item) ∧
        ∀ diagnostic, found.outcome (ofSchema schema) = .error diagnostic ↔
          ∃ check problem, Check.IsFirst (schema.Breaks found.item) check problem ∧
            diagnostic = ⟨found.fullName, .invalid problem⟩ := by
  -- The outcomes are those of what is found; the rest is about one enumeration.
  have hgenerate (host : Host) (all : List Found) (hall : host.found file = .ok all) :
      ∃ generation, host.generate file = .ok generation ∧
        generation.outcomes = all.map (Found.outcome host) := by
    rw [generate, hall]
    exact ⟨_, rfl, rfl⟩
  refine ⟨?_, ⟨fun _ => rfl, rfl⟩, ?_⟩
  · intro host all hall
    obtain ⟨generation, hgeneration, houtcomes⟩ := hgenerate host all hall
    refine ⟨generation, hgeneration, houtcomes, fun found hfound => ?_⟩
    have hoptions := Found.wrapperOptions_of_mem hall hfound
    exact ⟨Found.outcome_ok_iff hoptions, fun diagnostic => Found.outcome_error_iff hoptions⟩
  · intro schema
    obtain ⟨all, hall⟩ := Item.exists_foundAll (answers_ofSchema schema) [] file
    obtain ⟨generation, hgeneration, houtcomes⟩ := hgenerate _ all hall
    refine ⟨all, generation, hall, hgeneration, houtcomes, fun found hfound => ?_⟩
    have hoptions := Found.wrapperOptions_of_mem hall hfound
    exact ⟨Found.outcome_ofSchema_ok_iff hoptions,
      fun diagnostic => Found.outcome_ofSchema_error_iff hoptions⟩

/-- A variant with a field and a value that is no literal, behind a sound variant and in front of
another one with a fault. -/
def faultyItem : EnumItem :=
  .ofVariants "Level" [.ofTokens "enum_with_values" (TokenStream.word "Number")]
    [.ofTexts "Low" (some "16") none,
      { Variant.ofTexts "Middle" (some "c") none with
        fields := some (.group .parenthesis (TokenStream.word "u8") .nowhere) },
      .ofTexts "High" (some "c") none]

/-- The field is what is reported. -/
theorem outcome_of_faultyItem :
    (ofSchema .standard).found [.enumeration faultyItem] =
        .ok [⟨"Level", faultyItem, .ok ⟨.ofText "Number", true, false⟩⟩] ∧
      ∃ check problem, Check.IsFirst (Schema.standard.Breaks faultyItem) check problem ∧
        problem.message = "expected unit variant" := by
  have hfile : (ofSchema .standard).found [.enumeration faultyItem] =
      .ok [⟨"Level", faultyItem, .ok ⟨.ofText "Number", true, false⟩⟩] := rfl
  obtain ⟨_, _, hschema⟩ := outcome_of_first_fault [.enumeration faultyItem]
  obtain ⟨all, generation, hall, _, _, houtcome⟩ := hschema .standard
  obtain rfl := Except.ok.inj (hfile.symm.trans hall)
  obtain ⟨check, problem, hfirst, hproblem⟩ :=
    ((houtcome _ List.mem_cons_self).2 _).mp rfl
  exact ⟨hfile, check, problem, hfirst, by cases hproblem; rfl⟩

end Host

end ValuedEnum
