import ValuedEnum.Proofs.Containment
import ValuedEnum.Proofs.Expansion
import ValuedEnum.Proofs.Positions.Declaration
import ValuedEnum.Proofs.Stripping

/-!
# Renaming a schema

The names in a schema are no more than names. If the attributes of a file are renamed together with
the schema, every enumeration has the outcome that it had, as long as nothing else in the file has
the new names already. A wrapper attribute is known by the last word of its path, a value attribute
by its whole path, and `repr` is read on its own: the new names are kept apart from each of the
three in its own way.
-/

namespace ValuedEnum

namespace Path

/-- The path with another word in the place of its last one. -/
def withLast (path : Path) (text : String) : Path :=
  match path.rest with
  | [] => { path with first := ⟨text, path.first.span⟩ }
  | _ :: _ => { path with rest := path.rest.dropLast ++ [⟨text, path.last.span⟩] }

/-- Another last word leaves all words in front of it. -/
theorem segments_withLast (path : Path) (text : String) :
    (path.withLast text).segments = path.segments.dropLast ++ [⟨text, path.last.span⟩] := by
  obtain ⟨leading, first, rest⟩ := path
  cases rest <;> simp [withLast, segments, last]

/-- Another last word leaves the colons in front of a path. -/
theorem leading_withLast (path : Path) (text : String) :
    (path.withLast text).leading = path.leading := by
  obtain ⟨leading, first, rest⟩ := path
  cases rest <;> rfl

/-- A word stays where it is. -/
theorem span_tokens_withLast {path : Path} {name : String} (h : path.isWord name = true)
    (text : String) (back : TokenStream) :
    ((path.withLast text).tokens ++ back).span = (path.tokens ++ back).span := by
  obtain ⟨leading, first, rest⟩ := path
  cases leading <;> cases rest <;> simp [isWord, ident?] at h
  cases back <;> rfl

end Path

namespace Attribute

/-- The attribute with another word in the place of the last one of its path. -/
def withLast (attr : Attribute) (text : String) : Attribute :=
  { attr with path := attr.path.withLast text }

/-- The attribute under another name, if it is one of those that a schema names. -/
def renameIf (named : Attribute → Bool) (text : String) (attr : Attribute) : Attribute :=
  if named attr then attr.withLast text else attr

section

variable (named : Attribute → Bool) {named' : Attribute → Bool} {text : String}
  {attributes : List Attribute}

/-- Under the new name the same attributes are found, if no other one has that name. -/
theorem named_renameIf (hnamed : ∀ attr, named attr = true → named' (attr.withLast text) = true)
    {attr : Attribute} (hfresh : named' attr = false) :
    named' (attr.renameIf named text) = named attr := by
  cases h : named attr with
  | true => simp [renameIf, h, hnamed attr h]
  | false => simp [renameIf, h, hfresh]

variable (hnamed : ∀ attr, named attr = true → named' (attr.withLast text) = true)
  (hfresh : ∀ attr ∈ attributes, named' attr = false)

include hnamed hfresh

/-- The first attribute of a name is the first one of the new name. -/
theorem find?_renameIf :
    (attributes.map (renameIf named text)).find? named' =
      (attributes.find? named).map fun attr => attr.withLast text := by
  induction attributes with
  | nil => rfl
  | cons attr rest ih =>
    obtain ⟨hattr, hrest⟩ := List.forall_mem_cons.mp hfresh
    have hsame := named_renameIf named hnamed hattr
    rw [List.map_cons, List.find?_cons, List.find?_cons, hsame]
    cases h : named attr with
    | true => simp [renameIf, h]
    | false => exact ih hrest

/-- Without the attributes of a name, there is nothing left that was renamed. -/
theorem filter_renameIf :
    (attributes.map (renameIf named text)).filter (!named' ·) =
      attributes.filter (!named ·) := by
  induction attributes with
  | nil => rfl
  | cons attr rest ih =>
    obtain ⟨hattr, hrest⟩ := List.forall_mem_cons.mp hfresh
    have hsame := named_renameIf named hnamed hattr
    rw [List.map_cons, List.filter_cons, List.filter_cons, hsame, ih hrest]
    cases h : named attr with
    | true => rfl
    | false => simp [renameIf, h]

end

end Attribute

namespace Schema

variable {schema other : Schema}

/-- An attribute that gets the name of a wrapper asks for one. -/
theorem isWrapper_withLast (other : Schema) (attr : Attribute) :
    other.isWrapper (attr.withLast other.wrapper) = true := by
  refine isWrapper_iff.mpr ⟨attr.path.segments.dropLast.map Ident.text, ?_⟩
  simp [Attribute.withLast, Path.segments_withLast]

/-- A path that is a word stays one. -/
theorem isValue_withLast {attr : Attribute} (h : schema.isValue attr = true) (other : Schema) :
    other.isValue (attr.withLast other.value) = true := by
  obtain ⟨hleading, hsegments⟩ := isValue_iff.mp h
  have hone : attr.path.segments.length = 1 := by simpa using congrArg List.length hsegments
  refine isValue_iff.mpr ⟨(attr.path.leading_withLast other.value).trans hleading, ?_⟩
  have hnil : attr.path.segments.dropLast = [] := by
    rw [← List.length_eq_zero_iff, List.length_dropLast, hone]
  simp [Attribute.withLast, Path.segments_withLast, hnil]

/-- The variant with the attributes that hold values under the name of another schema. -/
def renameVariant (schema other : Schema) (variant : Variant) : Variant :=
  { variant with attributes := variant.attributes.map (.renameIf schema.isValue other.value) }

/-- The enumeration with the attributes that a schema names under the names of another one. -/
def rename (schema other : Schema) (item : EnumItem) : EnumItem :=
  { item with
    attributes := item.attributes.map (.renameIf schema.isWrapper other.wrapper)
    variants := item.variants.map (schema.renameVariant other) }

end Schema

instance (attr : Attribute) (name : String) : Decidable (attr.EndsIn name) :=
  decidable_of_iff ((⟨name, name⟩ : Schema).isWrapper attr = true) Schema.isWrapper_iff

instance (attr : Attribute) (name : String) : Decidable (attr.IsNamed name) :=
  inferInstanceAs (Decidable (_ ∧ _))

/-- A variant without attributes of the name that a schema gives to values. -/
def Variant.Fresh (other : Schema) (variant : Variant) : Prop :=
  ∀ attr ∈ variant.attributes, ¬ attr.IsNamed other.value

instance (other : Schema) (variant : Variant) : Decidable (variant.Fresh other) :=
  inferInstanceAs (Decidable (∀ attr ∈ variant.attributes, _))

/-- An enumeration that has no attributes of the names in a schema. -/
structure EnumItem.Fresh (other : Schema) (item : EnumItem) : Prop where
  wrapper : ∀ attr ∈ item.attributes, ¬ attr.EndsIn other.wrapper
  variants : ∀ variant ∈ item.variants, variant.Fresh other

instance (other : Schema) (item : EnumItem) : Decidable (item.Fresh other) :=
  decidable_of_iff ((∀ attr ∈ item.attributes, ¬ attr.EndsIn other.wrapper) ∧
    ∀ variant ∈ item.variants, variant.Fresh other) ⟨fun h => ⟨h.1, h.2⟩, fun h => ⟨h.1, h.2⟩⟩

namespace Schema

variable {schema other : Schema} {item : EnumItem} {variant : Variant}

/-- No attribute of a fresh enumeration asks for a wrapper in the new schema. -/
theorem isWrapper_eq_false (h : item.Fresh other) :
    ∀ attr ∈ item.attributes, other.isWrapper attr = false :=
  fun attr hattr => Bool.eq_false_iff.mpr (mt isWrapper_iff.mp (h.wrapper attr hattr))

/-- No attribute of a fresh variant holds values in the new schema. -/
theorem isValue_eq_false (h : variant.Fresh other) :
    ∀ attr ∈ variant.attributes, other.isValue attr = false :=
  fun attr hattr => Bool.eq_false_iff.mpr (mt isValue_iff.mp (h attr hattr))

/-- Renamed attributes are stripped like those that they were. -/
theorem stripVariant_rename (schema : Schema) (h : variant.Fresh other) :
    other.stripVariant (schema.renameVariant other variant) = schema.stripVariant variant := by
  have hattributes := Attribute.filter_renameIf schema.isValue
    (fun _ hattr => isValue_withLast hattr other) (isValue_eq_false h)
  simp only [stripVariant, renameVariant, hattributes]

/-- What is left of an enumeration does not tell the names that were removed. -/
theorem strip_rename (schema : Schema) (h : item.Fresh other) :
    other.strip (schema.rename other item) = schema.strip item := by
  have hattributes := Attribute.filter_renameIf schema.isWrapper
    (fun attr _ => isWrapper_withLast other attr) (isWrapper_eq_false h)
  have hvariants : (item.variants.map (schema.renameVariant other)).map other.stripVariant =
      item.variants.map schema.stripVariant := by
    rw [List.map_map]
    exact List.map_congr_left fun variant hvariant => stripVariant_rename schema (h.variants _ hvariant)
  simp only [strip, rename, hattributes, hvariants]

end Schema

/-! ### What is read -/

/-- The arguments of an attribute are read without its name. -/
theorem Host.toOption_attributeArguments_withLast {α : Type} (attr : Attribute) (text : String)
    (read : Scope → TokenStream → Except Problem α) :
    (attributeArguments (attr.withLast text) read).toOption =
      (attributeArguments attr read).toOption := by
  obtain ⟨pound, brackets, path, body⟩ := attr
  cases body <;> rfl

/-- The values of an attribute are read without its name, and so is what is wrong with them. -/
theorem Host.attributeValues_withLast {attr : Attribute} {name : String}
    (h : attr.path.isWord name = true) (text : String) :
    attributeValues (attr.withLast text) = attributeValues attr := by
  obtain ⟨pound, brackets, path, body⟩ := attr
  cases body with
  | bare => rfl
  | list delimiter content span => rfl
  | assigned equals value =>
    have hspan := Path.span_tokens_withLast h text (AttributeBody.assigned equals value).tokens
    simp only [attributeValues, Attribute.withLast, Attribute.content, hspan]

namespace Resolution

variable {schema other : Schema} {variant : Variant} {variants : List Variant}

/-- A renamed variant has the same values. -/
theorem variantValues_rename (schema : Schema) (h : variant.Fresh other) :
    (Host.ofSchema other).variantValues (schema.renameVariant other variant) =
      (Host.ofSchema schema).variantValues variant := by
  have hfind := Attribute.find?_renameIf schema.isValue
    (fun _ hattr => Schema.isValue_withLast hattr other) (Schema.isValue_eq_false h)
  simp only [Host.ofSchema, Schema.renameVariant, hfind]
  cases hvalue : variant.attributes.find? schema.isValue with
  | none => rfl
  | some attr =>
    have hword : schema.isValue attr = true := List.find?_some hvalue
    have hsame := Host.attributeValues_withLast hword other.value
    simp only [Option.map_some, hsame]

/-- A renamed variant is resolved like the one that it was. -/
theorem step_rename (schema : Schema) (h : variant.Fresh other) (preset : Int64) :
    step (.ofSchema other) (schema.renameVariant other variant) preset =
      step (.ofSchema schema) variant preset := by
  have hvalues := variantValues_rename schema h
  have hordinal : (Host.ofSchema other).initializer (schema.renameVariant other variant) =
      (Host.ofSchema schema).initializer variant := rfl
  unfold step
  rw [hvalues, hordinal]
  rfl

/-- The members of renamed variants are the members of the variants. -/
theorem ofVariants_rename (schema : Schema) (h : ∀ variant ∈ variants, variant.Fresh other)
    (preset : Int64) :
    ofVariants (.ofSchema other) (variants.map (schema.renameVariant other)) preset =
      ofVariants (.ofSchema schema) variants preset := by
  induction variants generalizing preset with
  | nil => rfl
  | cons variant rest ih =>
    obtain ⟨hvariant, hrest⟩ := List.forall_mem_cons.mp h
    simp only [List.map_cons, ofVariants, step_rename schema hvariant, ih hrest]

end Resolution

namespace Declaration

variable {schema other : Schema} {item : EnumItem}

/-- A wrapper attribute is no representation under either name. -/
theorem representation_rename (hold : schema.wrapper ≠ "repr") (hnew : other.wrapper ≠ "repr")
    (attributes : List Attribute) :
    representation (attributes.map (.renameIf schema.isWrapper other.wrapper)) =
      representation attributes := by
  induction attributes with
  | nil => rfl
  | cons attr rest ih =>
    cases h : schema.isWrapper attr with
    | false => simp only [List.map_cons, Attribute.renameIf, h, representation, ih]; rfl
    | true =>
      have hword := Schema.isWord_repr_of_isWrapper hold h
      have hword' := Schema.isWord_repr_of_isWrapper hnew (Schema.isWrapper_withLast other attr)
      simp only [List.map_cons, Attribute.renameIf, h, if_true, representation, hword, hword', ih]
      rfl

/-- Renamed attributes make the same declaration. -/
theorem toOption_resolve_rename (hold : schema.wrapper ≠ "repr") (hnew : other.wrapper ≠ "repr")
    (h : item.Fresh other) (fullName : String) {options options' : Except Problem WrapperOptions}
    (hoptions : options'.toOption = options.toOption) :
    (resolve (.ofSchema other) (schema.rename other item) fullName options').2.toOption =
      (resolve (.ofSchema schema) item fullName options).2.toOption := by
  rcases eq_or_error_of_toOption_eq hoptions with ⟨wrapper, rfl, rfl⟩ | ⟨_, _, rfl, rfl⟩
  · have hresolution := Resolution.ofVariants_rename schema h.variants 0
    have hrepr := representation_rename hold hnew item.attributes
    have hempty : (schema.rename other item).variants.isEmpty = item.variants.isEmpty := by
      simp [Schema.rename]
    have hidents : (schema.rename other item).variants.map Variant.ident =
        item.variants.map Variant.ident := by
      simp [Schema.rename, Schema.renameVariant, Function.comp_def]
    have hdeclaration (repr : IntegerType) (members : List Member) :
        ofResolution (schema.rename other item) fullName wrapper repr members =
          ofResolution item fullName wrapper repr members := by
      simp only [ofResolution, hidents]
      rfl
    unfold resolve
    simp only [hempty, hdeclaration]
    simp only [Schema.rename, hrepr, hresolution]
  · rfl

end Declaration

/-! ### Whole files -/

/-- Two units with the same name and the same tokens, or two diagnostics of one declaration. -/
def Outcome.Same : Outcome → Outcome → Prop
  | .ok unit, .ok unit' => unit.name = unit'.name ∧ unit.tokens = unit'.tokens
  | .error diagnostic, .error diagnostic' => diagnostic.declaration = diagnostic'.declaration
  | _, _ => False

namespace Item

mutual

/-- The item with all enumerations renamed. -/
def rename (schema other : Schema) : Item → Item
  | .module name items => .module name (renameAll schema other items)
  | .enumeration item => .enumeration (schema.rename other item)
  | .other => .other

/-- Some items with all enumerations renamed. -/
def renameAll (schema other : Schema) : List Item → List Item
  | [] => []
  | item :: rest => item.rename schema other :: renameAll schema other rest

end

mutual

/-- The enumerations have their places and their own names as before. -/
theorem declared_rename (schema other : Schema) (modules : List String) (item : Item) :
    (item.rename schema other).declared modules =
      (item.declared modules).map fun entry => ⟨entry.fullName, schema.rename other entry.item⟩ := by
  cases item with
  | module name items => exact declaredAll_renameAll schema other (modules ++ [name.text]) items
  | enumeration item => rfl
  | other => rfl

/-- The enumerations of renamed items are the renamed ones of these items. -/
theorem declaredAll_renameAll (schema other : Schema) (modules : List String) (items : List Item) :
    declaredAll modules (renameAll schema other items) =
      (declaredAll modules items).map fun entry =>
        ⟨entry.fullName, schema.rename other entry.item⟩ := by
  cases items with
  | nil => rfl
  | cons item rest =>
    have hitem := declared_rename schema other modules item
    have hrest := declaredAll_renameAll schema other modules rest
    rw [renameAll, declaredAll, declaredAll, hitem, hrest, List.map_append]

end

end Item

namespace Found

variable {schema other : Schema} {entry : Declared}

/-- An enumeration is found under both names or under none. -/
theorem found?_rename (schema : Schema) (h : entry.item.Fresh other) :
    (Declared.found? (.ofSchema schema) entry = none ∧
      Declared.found? (.ofSchema other) ⟨entry.fullName, schema.rename other entry.item⟩ = none) ∨
    ∃ options options', options'.toOption = options.toOption ∧
      Declared.found? (.ofSchema schema) entry = some ⟨entry.fullName, entry.item, options⟩ ∧
      Declared.found? (.ofSchema other) ⟨entry.fullName, schema.rename other entry.item⟩ =
        some ⟨entry.fullName, schema.rename other entry.item, options'⟩ := by
  have hfind := Attribute.find?_renameIf schema.isWrapper
    (fun attr _ => Schema.isWrapper_withLast other attr) (Schema.isWrapper_eq_false h)
  simp only [Declared.found?, Host.ofSchema, Schema.rename, hfind]
  cases entry.item.attributes.find? schema.isWrapper with
  | none => exact .inl ⟨rfl, rfl⟩
  | some attr =>
    exact .inr ⟨_, _, Host.toOption_attributeArguments_withLast attr other.wrapper
      WrapperOptions.ofTokens, rfl, rfl⟩

/-- Renamed attributes lead to the same unit, or to a diagnostic as before. -/
theorem outcome_rename (hold : schema.wrapper ≠ "repr") (hnew : other.wrapper ≠ "repr")
    (fullName : String) {item : EnumItem} (h : item.Fresh other)
    {options options' : Except Problem WrapperOptions}
    (hoptions : options'.toOption = options.toOption) :
    Outcome.Same (Found.outcome (.ofSchema schema) ⟨fullName, item, options⟩)
      (Found.outcome (.ofSchema other) ⟨fullName, schema.rename other item, options'⟩) := by
  have hstrip := Schema.strip_rename schema h
  unfold outcome resolve
  rcases eq_or_error_of_toOption_eq
    (Declaration.toOption_resolve_rename hold hnew h fullName hoptions) with
    ⟨declaration, hafter, hbefore⟩ | ⟨_, _, hafter, hbefore⟩
  · have htokens : (schema.strip item).tokens ++ declaration.tokens =
        (other.strip (schema.rename other item)).tokens ++ declaration.tokens := by rw [hstrip]
    simp only [hbefore, hafter]
    exact ⟨rfl, htokens⟩
  · simp only [hbefore, hafter, Outcome.Same]

/-- The same enumerations are found, with the same outcomes. -/
theorem outcomes_rename (hold : schema.wrapper ≠ "repr") (hnew : other.wrapper ≠ "repr")
    {entries : List Declared} (h : ∀ entry ∈ entries, entry.item.Fresh other) :
    List.Forall₂ Outcome.Same
      ((entries.filterMap (Declared.found? (.ofSchema schema))).map
        (Found.outcome (.ofSchema schema)))
      (((entries.map fun entry : Declared =>
          (⟨entry.fullName, schema.rename other entry.item⟩ : Declared)).filterMap
        (Declared.found? (.ofSchema other))).map (Found.outcome (.ofSchema other))) := by
  induction entries with
  | nil => exact .nil
  | cons entry rest ih =>
    obtain ⟨hentry, hrest⟩ := List.forall_mem_cons.mp h
    -- Either both schemas pass over the enumeration, or both find it.
    rcases found?_rename schema hentry with
      ⟨hbefore, hafter⟩ | ⟨options, options', hoptions, hbefore, hafter⟩
    · simpa only [List.map_cons, List.filterMap_cons, hbefore, hafter] using ih hrest
    · simp only [List.map_cons, List.filterMap_cons, hbefore, hafter]
      exact .cons (outcome_rename hold hnew entry.fullName hentry hoptions) (ih hrest)

end Found

open TokenStream in
/-- Two enumerations in a module. The first one has its wrapper attribute behind a path and another
one behind it, an attribute on a variant that is called as the wrapper is, and one that only ends in
the new name of values. The second one has no variants. -/
def wrappedFile : SourceFile :=
  [.module (.ofText "a")
    [.enumeration (.ofVariants "Level"
      [{ Attribute.ofTokens "p" (word "Number") with
          path := ⟨none, .ofText "p", [.ofText "enum_with_values"]⟩ },
        .ofTokens "repr" (word "u8"), .ofTokens "enum_with_values" (word "Other")]
      [{ Variant.ofTexts "Low" (some "16") none with attributes :=
        [.ofTokens "enum_with_values" (word "x"),
          { Attribute.ofTokens "q" (word "x") with path := ⟨none, .ofText "q", [.ofText "held"]⟩ },
          .ofTokens "value" [.literal "16" .nowhere]] }]),
    .enumeration (.ofVariants "Nothing" [.ofTokens "enum_with_values" (word "Never")] [])]]

end ValuedEnum
