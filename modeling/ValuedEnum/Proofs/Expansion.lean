import ValuedEnum.Expansion
import ValuedEnum.Proofs.Nesting
import ValuedEnum.Proofs.Scope

/-!
# Expanding agrees with generating

An attribute can be expanded where it stands, or a whole file can be generated from. Both give the
same code: an enumeration in any place of a file, with the attribute at any position in front of its
other wrapper attributes, has the unit that expanding the attribute returns, or neither has one.
-/

namespace ValuedEnum

/-- The place of an item in a file: between other items, or in a module at some place. -/
inductive Item.Place where
  | among (before after : List Item)
  | inModule (before : List Item) (name : Ident) (inner : Place) (after : List Item)

namespace Item.Place

/-- The file with an item at a place. -/
def fill (item : Item) : Place → List Item
  | among before after => before ++ item :: after
  | inModule before name inner after => before ++ .module name (inner.fill item) :: after

/-- The modules around a place, the outermost one first. -/
def modules : Place → List String
  | among .. => []
  | inModule _ name inner _ => name.text :: inner.modules

/-- What stands in front of a place. -/
def front : Place → List Item
  | among before _ => before
  | inModule before name inner _ => before ++ [.module name inner.front]

/-- What stands behind a place. -/
def back : Place → List Item
  | among _ after => after
  | inModule _ name inner after => .module name inner.back :: after

end Item.Place

namespace Item

/-- What is found in the first item stands in front of what is found in the others. -/
theorem foundAll_cons_eq (host : Host) (modules : List String) (item : Item) (rest : List Item) :
    foundAll host modules (item :: rest) = do
      let first ← found host modules item
      return first ++ (← foundAll host modules rest) := by
  simp only [foundAll]
  cases found host modules item with
  | error panic => rfl
  | ok first => cases foundAll host modules rest <;> rfl

/-- Nothing is found among no items. -/
theorem foundAll_nil (host : Host) (modules : List String) :
    foundAll host modules [] = pure [] := rfl

/-- A module is searched like a file, under its name. -/
theorem found_module (host : Host) (modules : List String) (name : Ident) (items : List Item) :
    found host modules (.module name items) = foundAll host (modules ++ [name.text]) items := by
  simp only [found]

/-- What is found in a file is found in front of a place, at it, and behind it. -/
theorem foundAll_fill (host : Host) (modules : List String) (item : Item) (place : Place) :
    foundAll host modules (place.fill item) = do
      let before ← foundAll host modules place.front
      let here ← found host (modules ++ place.modules) item
      return before ++ (here ++ (← foundAll host modules place.back)) := by
  induction place generalizing modules with
  | among before after =>
    simp [Place.fill, Place.front, Place.back, Place.modules, foundAll_append, foundAll_cons_eq]
  | inModule before name inner after ih =>
    simp [Place.fill, Place.front, Place.back, Place.modules, foundAll_append, foundAll_cons_eq,
      foundAll_nil, found_module, ih]

end Item

/-- The outcome of an annotated enumeration stands between those of what is in front of its place
and those of what is behind it. -/
theorem Host.generate_fill {host : Host} (hhost : host.Answers) (place : Item.Place)
    {item : EnumItem} {options : Except Problem WrapperOptions}
    (hoptions : host.wrapperOptions item = .ok (some options)) :
    ∃ before after whole, host.generate place.front = .ok before ∧
      host.generate place.back = .ok after ∧
      host.generate (place.fill (.enumeration item)) = .ok whole ∧
      whole.outcomes = before.outcomes ++
        Found.outcome host ⟨Item.qualified place.modules item.ident.text, item, options⟩ ::
          after.outcomes := by
  obtain ⟨before, hbefore⟩ := Item.exists_foundAll hhost [] place.front
  obtain ⟨after, hafter⟩ := Item.exists_foundAll hhost [] place.back
  have hwhole := Item.foundAll_fill host [] (.enumeration item) place
  simp only [Item.found, hoptions, hbefore, hafter, List.nil_append, bind, Except.bind, pure,
    Except.pure] at hwhole
  simp only [Host.generate, Host.found, hbefore, hafter, hwhole]
  exact ⟨_, _, _, rfl, rfl, rfl, by simp⟩

/-! ### Attributes that make no difference -/

/-- A path that is a word ends in it. -/
theorem Path.last_of_isWord {path : Path} {text : String} (h : path.isWord text = true) :
    path.last.text = text := by
  unfold isWord ident? at h
  split at h
  · rename_i hword
    obtain ⟨_, hrest⟩ := Bool.and_eq_true_iff.mp hword
    simpa [last, List.isEmpty_iff.mp hrest] using h
  · simp at h

namespace Declaration

/-- Only representation attributes decide the representation. -/
theorem representation_insert {attr : Attribute} (hattr : attr.path.isWord "repr" = false)
    (front back : List Attribute) :
    representation (front ++ attr :: back) = representation (front ++ back) := by
  induction front with
  | nil => simp [representation, hattr]
  | cons first rest ih => simp only [List.cons_append, representation, ih]

end Declaration

namespace Schema

/-- A wrapper attribute asks for no representation. -/
theorem isWord_repr_of_isWrapper {schema : Schema} (hschema : schema.wrapper ≠ "repr")
    {attr : Attribute} (hattr : schema.isWrapper attr = true) :
    attr.path.isWord "repr" = false := by
  refine Bool.eq_false_iff.mpr fun hword => hschema ?_
  have hlast : attr.path.last.text = schema.wrapper := by simpa [isWrapper] using hattr
  exact hlast.symm.trans (Path.last_of_isWord hword)

/-- The attributes that a schema strips make no difference to what is left. -/
theorem strip_insert (schema : Schema) (item : EnumItem) {attr : Attribute}
    (hattr : schema.isWrapper attr = true) (front back : List Attribute) :
    schema.strip { item with attributes := front ++ attr :: back } =
      schema.strip { item with attributes := front ++ back } := by
  simp [strip, hattr]

end Schema

namespace Expansion

/-- The first wrapper attribute gives an enumeration its options. -/
theorem wrapperOptions_insert (item : EnumItem) {attr : Attribute}
    (hattr : Schema.standard.isWrapper attr = true) {front : List Attribute}
    (hfront : ∀ other ∈ front, Schema.standard.isWrapper other = false) (back : List Attribute) :
    (Host.ofSchema .standard).wrapperOptions { item with attributes := front ++ attr :: back } =
      .ok (some (Host.attributeArguments attr WrapperOptions.ofTokens)) := by
  have hnone : front.find? Schema.standard.isWrapper = none :=
    List.find?_eq_none.mpr fun other hother => by simp [hfront other hother]
  simp [Host.ofSchema, List.find?_append, hnone, hattr]

end Expansion

/-- Results that are the same up to a view succeed together. -/
theorem ok_iff_of_toOption_map_eq {ε α β : Type} {view : α → β} {first second : Except ε α}
    (h : first.toOption.map view = second.toOption.map view) :
    ((∃ result, first = .ok result) ↔ ∃ result, second = .ok result) ∧
      ∀ result, first = .ok result → ∃ other, second = .ok other ∧ view result = view other := by
  cases first <;> cases second <;> simp_all [Except.toOption]

/-- The tokens of a unit come from the options, the representation and the rest of an enumeration
without the attributes of the schema. -/
theorem Found.tokens_outcome_congr (host : Host) {first second : Found}
    {attributes : List Attribute}
    (hitem : second.item = { first.item with attributes := attributes })
    (hstrip : host.schema.strip second.item = host.schema.strip first.item)
    (hrepr : Declaration.representation second.item.attributes =
      Declaration.representation first.item.attributes)
    (hoptions : second.options.toOption = first.options.toOption) :
    (second.outcome host).toOption.map SourceUnit.tokens =
      (first.outcome host).toOption.map SourceUnit.tokens := by
  obtain ⟨fullName, item, options⟩ := first
  obtain ⟨otherName, other, otherOptions⟩ := second
  simp only at hitem hstrip hrepr hoptions
  rcases eq_or_error_of_toOption_eq hoptions with ⟨wrapper, rfl, rfl⟩ | ⟨_, _, rfl, rfl⟩
  · have hvariants : other.variants = item.variants := by rw [hitem]
    have htokens (repr : IntegerType) (members : List Member) :
        (Declaration.ofResolution other otherName wrapper repr members).tokens =
          (Declaration.ofResolution item fullName wrapper repr members).tokens := by
      rw [hitem]
      rfl
    simp only [outcome, resolve, Declaration.resolve, hvariants, hrepr]
    by_cases hempty : item.variants.isEmpty = true
    · simp [hempty, Except.toOption]
    · cases Declaration.representation item.attributes with
      | error problem => simp [hempty, Except.toOption]
      | ok repr =>
        cases (Resolution.ofVariants host item.variants 0).fault with
        | some fault => simp [hempty, Except.toOption]
        | none => simp [hempty, Except.toOption, unit, htokens, hstrip]
  · rfl

namespace Declaration

/-- A wrapper has code. -/
theorem tokens_ne_nil (declaration : Declaration) : declaration.tokens ≠ [] := by
  simp [tokens, items, wrapperType, CodeItem.tokens, TokenStream.word]

end Declaration

namespace Expansion

/-- An enumeration with the attribute in front of its own ones, as it is found. -/
def annotatedFound (arguments : TokenStream) (item : EnumItem) : Found :=
  ⟨Item.qualified [] item.ident.text, annotated arguments item,
    Host.attributeArguments (wrapperAttribute arguments) WrapperOptions.ofTokens⟩

/-- Expanding generates for one enumeration. -/
theorem generate_annotated (arguments : TokenStream) (item : EnumItem) :
    ∃ generation, (Host.ofSchema .standard).generate [.enumeration (annotated arguments item)] =
        .ok generation ∧
      generation.outcomes = [(annotatedFound arguments item).outcome (.ofSchema .standard)] := by
  have hwrapper : Schema.standard.isWrapper (wrapperAttribute arguments) = true := rfl
  have hfront : ∀ other ∈ [], Schema.standard.isWrapper other = false := by simp
  have hoptions := wrapperOptions_insert item hwrapper hfront item.attributes
  have hfound : (Host.ofSchema .standard).found [.enumeration (annotated arguments item)] =
      .ok [annotatedFound arguments item] := by
    simp only [Host.found, Item.foundAll, Item.found]
    rw [show annotated arguments item = { item with
      attributes := [] ++ wrapperAttribute arguments :: item.attributes } from rfl, hoptions]
    rfl
  rw [Host.generate, hfound]
  exact ⟨_, rfl, rfl⟩

/-- What expanding returns is the unit's code, or else the enumeration without its attributes. -/
theorem enumeration_eq (arguments : TokenStream) (item : EnumItem) :
    enumeration arguments item =
      match (annotatedFound arguments item).outcome (.ofSchema .standard) with
      | .ok unit => unit.tokens
      | .error _ => (Schema.standard.strip item).tokens := by
  obtain ⟨generation, hgeneration, houtcomes⟩ := generate_annotated arguments item
  have hstrip : Schema.standard.strip (annotated arguments item) = Schema.standard.strip item :=
    Schema.standard.strip_insert item rfl [] item.attributes
  simp only [enumeration, hgeneration, houtcomes, List.getLast?_singleton, hstrip]
  cases (annotatedFound arguments item).outcome (.ofSchema .standard) <;> rfl

/-- The code of a unit is the enumeration without its attributes, and more. -/
theorem tokens_ne_strip {host : Host} {found : Found} {unit : SourceUnit}
    (hunit : found.outcome host = .ok unit) :
    unit.tokens ≠ (host.schema.strip found.item).tokens := by
  unfold Found.outcome at hunit
  split at hunit
  · rename_i declaration _
    simp only [Except.ok.injEq] at hunit
    subst hunit
    simpa [Found.unit] using declaration.tokens_ne_nil
  · simp at hunit

/-- The attribute at any position in front of the other wrapper attributes gives the code that it
gives in front of all attributes. -/
theorem tokens_outcome_insert (arguments : TokenStream) {item : EnumItem} {attr : Attribute}
    (hattr : Schema.standard.isWrapper attr = true) {delimiter : Delimiter} {span : Span}
    (hbody : attr.body = .list delimiter arguments span) {front back : List Attribute}
    (hattributes : item.attributes = front ++ back) (fullName : String) :
    (Found.outcome (.ofSchema .standard)
        ⟨fullName, { item with attributes := front ++ attr :: back },
          Host.attributeArguments attr WrapperOptions.ofTokens⟩).toOption.map SourceUnit.tokens =
      ((annotatedFound arguments item).outcome (.ofSchema .standard)).toOption.map
        SourceUnit.tokens := by
  refine Found.tokens_outcome_congr _ rfl ?_ ?_ ?_
  · change Schema.standard.strip _ = Schema.standard.strip (annotated arguments item)
    rw [Schema.standard.strip_insert item hattr, ← hattributes]
    exact (Schema.standard.strip_insert item rfl [] item.attributes).symm
  · change _ = Declaration.representation ([] ++ wrapperAttribute arguments :: item.attributes)
    have hschema : Schema.standard.wrapper ≠ "repr" := by decide
    rw [Declaration.representation_insert (Schema.isWord_repr_of_isWrapper hschema hattr),
      Declaration.representation_insert (Schema.isWord_repr_of_isWrapper hschema rfl),
      ← hattributes, List.nil_append]
  · simp only [annotatedFound, Host.attributeArguments, hbody, wrapperAttribute]
    exact WrapperOptions.toOption_ofTokens _ _ _

/-- Expanding the attribute on an enumeration generates once: it returns the unit's code, or else
just the enumeration without its attributes. In every place of a file, and at any position in front
of its other wrapper attributes, the attribute has a unit in the same cases, with the same code. -/
theorem expand_agrees_with_generate {tokens : TokenStream} {item : EnumItem}
    (hitem : Grammar.enumeration .whole tokens = .ok item) (arguments : TokenStream) :
    ∃ generation expanded,
      (Host.ofSchema .standard).generate [.enumeration (annotated arguments item)] =
        .ok generation ∧
      generation.outcomes = [expanded] ∧
      expand arguments tokens =
        (match expanded with
        | .ok unit => unit.tokens
        | .error _ => (Schema.standard.strip item).tokens) ∧
      ((∃ unit, expanded = .ok unit) ↔
        expand arguments tokens ≠ (Schema.standard.strip item).tokens) ∧
      ∀ (attr : Attribute) (delimiter : Delimiter) (span : Span) (front back : List Attribute)
        (place : Item.Place),
        Schema.standard.isWrapper attr = true → attr.body = .list delimiter arguments span →
        item.attributes = front ++ back →
        (∀ other ∈ front, Schema.standard.isWrapper other = false) →
        ∃ before after whole outcome,
          (Host.ofSchema .standard).generate place.front = .ok before ∧
          (Host.ofSchema .standard).generate place.back = .ok after ∧
          (Host.ofSchema .standard).generate
            (place.fill (.enumeration { item with attributes := front ++ attr :: back })) =
              .ok whole ∧
          whole.outcomes = before.outcomes ++ outcome :: after.outcomes ∧
          ((∃ unit, outcome = .ok unit) ↔ ∃ unit, expanded = .ok unit) ∧
          ∀ unit, outcome = .ok unit → unit.tokens = expand arguments tokens := by
  obtain ⟨generation, hgeneration, houtcomes⟩ := generate_annotated arguments item
  have hexpand : expand arguments tokens = enumeration arguments item := by
    simp only [expand, hitem]
  rw [enumeration_eq arguments item] at hexpand
  refine ⟨generation, _, hgeneration, houtcomes, hexpand, ?_, ?_⟩
  -- A unit starts with the enumeration, so it is longer than the stripped enumeration alone.
  · cases hexpanded : (annotatedFound arguments item).outcome (.ofSchema .standard) with
    | error diagnostic => simp [hexpand, hexpanded]
    | ok unit =>
      have hne := tokens_ne_strip hexpanded
      rw [show (Host.ofSchema .standard).schema.strip (annotatedFound arguments item).item =
        Schema.standard.strip item from
          Schema.standard.strip_insert item rfl [] item.attributes] at hne
      simpa [hexpand, hexpanded] using hne
  · intro attr delimiter span front back place hattr hbody hattributes hfront
    -- The host takes the first wrapper attribute, which is the inserted one wherever it stands
    -- among the others. What else is in the file has its outcomes on both sides.
    have hoptions := wrapperOptions_insert item hattr hfront back
    have htokens := tokens_outcome_insert arguments hattr hbody hattributes
      (Item.qualified place.modules item.ident.text)
    obtain ⟨before, after, whole, hbefore, hafter, hwhole, hsplit⟩ :=
      Host.generate_fill (Host.answers_ofSchema .standard) place hoptions
    obtain ⟨hiff, hsame⟩ := ok_iff_of_toOption_map_eq htokens
    refine ⟨before, after, whole, _, hbefore, hafter, hwhole, hsplit, hiff, fun unit hunit => ?_⟩
    obtain ⟨other, hother, hequal⟩ := hsame unit hunit
    rw [hequal, hexpand, hother]

/-! ### An enumeration in a module -/

open TokenStream in
/-- The tokens of an enumeration with an attribute of its own. -/
def levelTokens : TokenStream :=
  sign "#" ++ bracketed (word "non_exhaustive") ++ word "enum" ++ word "Level" ++
    braced (sign "#" ++ bracketed (word "value" ++ parenthesized [.literal "16" .nowhere]) ++
      word "Low")

/-- An attribute that has nothing to do with wrappers. -/
def exhaustiveMark : Attribute := ⟨.nowhere, .nowhere, ⟨none, .ofText "non_exhaustive", []⟩, .bare⟩

/-- An enumeration with one value and that attribute. -/
def levelItem : EnumItem :=
  .ofVariants "Level" [exhaustiveMark] [.ofTexts "Low" (some "16") none]

/-- The wrapper attribute, reached through a path and with brackets around its arguments. -/
def bracketedAttribute : Attribute where
  pound := .nowhere
  brackets := .nowhere
  path := ⟨none, .ofText "macros", [.ofText "enum_with_values"]⟩
  body := .list .bracket (TokenStream.word "Number") .nowhere

/-- A module that holds the enumeration and one that is not annotated. -/
def levelPlace : Item.Place :=
  .inModule [.other] (.ofText "a") (.among [.enumeration (.ofVariants "Other" [] [])] []) []

/-- In a module and behind another attribute, the attribute has the code that expanding returns. -/
theorem expand_agrees_at_levelPlace :
    Grammar.enumeration .whole levelTokens = .ok levelItem ∧
      Schema.standard.isWrapper bracketedAttribute = true ∧
      (∀ other ∈ [exhaustiveMark], Schema.standard.isWrapper other = false) ∧
      ∃ whole unit, (Host.ofSchema .standard).generate (levelPlace.fill (.enumeration
          { levelItem with attributes := [exhaustiveMark] ++ [bracketedAttribute] })) = .ok whole ∧
        whole.outcomes = [.ok unit] ∧
        unit.tokens = expand (TokenStream.word "Number") levelTokens := by
  have hitem : Grammar.enumeration .whole levelTokens = .ok levelItem := by rfl
  have hattr : Schema.standard.isWrapper bracketedAttribute = true := by decide
  have hfront : ∀ other ∈ [exhaustiveMark], Schema.standard.isWrapper other = false := by decide
  obtain ⟨generation, expanded, hgeneration, houtcomes, _, _, hplaces⟩ :=
    expand_agrees_with_generate hitem (TokenStream.word "Number")
  obtain ⟨before, after, whole, outcome, hbefore, hafter, hwhole, hsplit, hiff, hsame⟩ :=
    hplaces bracketedAttribute .bracket .nowhere [exhaustiveMark] [] levelPlace hattr rfl rfl hfront
  have hexpanded : ∃ unit, expanded = .ok unit := by
    cases hgeneration
    cases houtcomes
    exact ⟨_, rfl⟩
  obtain ⟨unit, rfl⟩ := hiff.mpr hexpanded
  cases hbefore
  cases hafter
  exact ⟨hitem, hattr, hfront, whole, unit, hwhole, hsplit, hsame unit rfl⟩

end Expansion

end ValuedEnum
