import Mathlib.Data.List.Forall2
import ValuedEnum.Proofs.Stripping.Unit

/-!
# Stripping

To strip an enumeration is to remove the attributes that its schema names, all of them and nothing
else. `Schema.Strips` says so without a filter. This file proves that the stripped enumeration is
the only one of which it holds, that a host with the same schema has no answers about it, and that
nothing is found in the units of a file.
-/

namespace ValuedEnum

/-- The second list is the first one without the elements that are dropped, in the same order. -/
inductive Removes {α : Type} (drop : α → Prop) : List α → List α → Prop
  | nil : Removes drop [] []
  | dropped {item : α} {all left : List α} (h : drop item) (hrest : Removes drop all left) :
      Removes drop (item :: all) left
  | kept {item : α} {all left : List α} (h : ¬ drop item) (hrest : Removes drop all left) :
      Removes drop (item :: all) (item :: left)

namespace Removes

variable {α : Type} {drop : α → Prop} {all left : List α}

/-- What is left is what a filter keeps. -/
theorem iff_eq_filter {test : α → Bool} (htest : ∀ item, test item = true ↔ drop item) :
    Removes drop all left ↔ left = all.filter (!test ·) := by
  refine ⟨fun h => ?_, ?_⟩
  · induction h with
    | nil => rfl
    | dropped h _ ih => simp [(htest _).mpr h, ih]
    | kept h _ ih => simp [Bool.eq_false_iff.mpr (mt (htest _).mp h), ih]
  · rintro rfl
    induction all with
    | nil => exact .nil
    | cons item rest ih =>
      by_cases h : test item = true
      · simpa [h] using Removes.dropped ((htest item).mp h) ih
      · simpa [h] using Removes.kept (mt (htest item).mpr h) ih

end Removes

/-- Where a relation is a function, pointwise related lists are images. -/
theorem forall₂_iff_eq_map {α β : Type} {relation : α → β → Prop} {image : α → β}
    (h : ∀ first second, relation first second ↔ second = image first) {all : List α}
    {others : List β} : List.Forall₂ relation all others ↔ others = all.map image := by
  have hrelation : relation = fun first second => image first = second := by
    funext first second
    exact propext ((h first second).trans eq_comm)
  rw [hrelation, ← List.forall₂_map_left_iff, List.forall₂_eq_eq_eq, eq_comm]

namespace Attribute

/-- An attribute whose path ends in a name. -/
def EndsIn (attr : Attribute) (name : String) : Prop :=
  ∃ front, attr.path.segments.map Ident.text = front ++ [name]

/-- An attribute whose path is a name and nothing else. -/
def IsNamed (attr : Attribute) (name : String) : Prop :=
  attr.path.leading = none ∧ attr.path.segments.map Ident.text = [name]

end Attribute

namespace Schema

variable {schema : Schema}

/-- One variant is another one without the attributes that hold values. -/
structure StripsVariant (schema : Schema) (variant stripped : Variant) : Prop where
  attributes : Removes (·.IsNamed schema.value) variant.attributes stripped.attributes
  ident : stripped.ident = variant.ident
  fields : stripped.fields = variant.fields
  discriminant : stripped.discriminant = variant.discriminant

/-- One enumeration is another one without the attributes that the schema names. -/
structure Strips (schema : Schema) (item stripped : EnumItem) : Prop where
  attributes : Removes (·.EndsIn schema.wrapper) item.attributes stripped.attributes
  visibility : stripped.visibility = item.visibility
  ident : stripped.ident = item.ident
  generics : stripped.generics = item.generics
  constraints : stripped.constraints = item.constraints
  braces : stripped.braces = item.braces
  variants : List.Forall₂ schema.StripsVariant item.variants stripped.variants
  trailing : stripped.trailing = item.trailing

/-- The attributes that ask for a wrapper are those whose paths end in its name. -/
theorem isWrapper_iff {attr : Attribute} :
    schema.isWrapper attr = true ↔ attr.EndsIn schema.wrapper := by
  have hlast : (attr.path.segments.map Ident.text).getLast? = some attr.path.last.text := by
    simp [Path.segments, Path.last, List.getLast?_cons, List.getLastD_eq_getLast?]
  rw [Attribute.EndsIn, ← List.getLast?_eq_some_iff, hlast]
  simp [isWrapper]

/-- The attributes that hold values are those that are named so. -/
theorem isValue_iff {attr : Attribute} :
    schema.isValue attr = true ↔ attr.IsNamed schema.value := by
  obtain ⟨pound, brackets, ⟨leading, first, rest⟩, body⟩ := attr
  cases leading <;> cases rest <;>
    simp [isValue, Path.isWord, Path.ident?, Attribute.IsNamed, Path.segments]

/-- A variant is stripped in one way. -/
theorem stripsVariant_iff (variant stripped : Variant) :
    schema.StripsVariant variant stripped ↔ stripped = schema.stripVariant variant := by
  refine ⟨fun h => ?_, ?_⟩
  · obtain ⟨attributes, ident, fields, discriminant⟩ := stripped
    obtain ⟨hattributes, rfl, rfl, rfl⟩ := h
    obtain rfl := (Removes.iff_eq_filter fun _ => isValue_iff).mp hattributes
    rfl
  · rintro rfl
    exact ⟨(Removes.iff_eq_filter fun _ => isValue_iff).mpr rfl, rfl, rfl, rfl⟩

/-- An enumeration is stripped in one way. -/
theorem strips_iff {item stripped : EnumItem} :
    schema.Strips item stripped ↔ stripped = schema.strip item := by
  have hvariants {variants others : List Variant} :
      List.Forall₂ schema.StripsVariant variants others ↔
        others = variants.map schema.stripVariant :=
    forall₂_iff_eq_map stripsVariant_iff
  refine ⟨fun h => ?_, ?_⟩
  · obtain ⟨attributes, visibility, ident, generics, constraints, braces, variants, trailing⟩ :=
      stripped
    obtain ⟨hattributes, rfl, rfl, rfl, rfl, rfl, hall, rfl⟩ := h
    obtain rfl := (Removes.iff_eq_filter fun _ => isWrapper_iff).mp hattributes
    obtain rfl := hvariants.mp hall
    rfl
  · rintro rfl
    exact ⟨(Removes.iff_eq_filter fun _ => isWrapper_iff).mpr rfl, rfl, rfl, rfl, rfl, rfl,
      hvariants.mpr rfl, rfl⟩

/-- There is nothing to remove from what was stripped. -/
theorem strip_strip (schema : Schema) (item : EnumItem) :
    schema.strip (schema.strip item) = schema.strip item := by
  have hvariant (variant : Variant) :
      schema.stripVariant (schema.stripVariant variant) = schema.stripVariant variant := by
    simp [stripVariant]
  simp [strip, hvariant]

/-- The host has no options for a stripped enumeration. -/
theorem wrapperOptions_strip (schema : Schema) (item : EnumItem) :
    (Host.ofSchema schema).wrapperOptions (schema.strip item) = .ok none := by
  have hnone : (schema.strip item).attributes.find? schema.isWrapper = none := by simp [strip]
  simp [Host.ofSchema, hnone]

/-- The host has no values for the variants of a stripped enumeration. -/
theorem variantValues_strip (schema : Schema) (item : EnumItem) :
    ∀ variant ∈ (schema.strip item).variants,
      (Host.ofSchema schema).variantValues variant = .ok none := by
  intro variant hvariant
  obtain ⟨given, -, rfl⟩ := List.mem_map.mp hvariant
  have hnone : (schema.stripVariant given).attributes.find? schema.isValue = none := by
    simp [stripVariant]
  simp [Host.ofSchema, hnone]

/-- The attributes that a schema names are removed, and nothing else. So the host of the schema
finds neither a wrapper nor values in what is left, and no enumeration in the units of a file. For a
unit it is assumed that its tokens are read as items again; the statement is about those items. -/
theorem strip_clears (schema : Schema) :
    (∀ item stripped, schema.Strips item stripped ↔ stripped = schema.strip item) ∧
    (∀ item, schema.strip (schema.strip item) = schema.strip item ∧
      (Host.ofSchema schema).wrapperOptions (schema.strip item) = .ok none ∧
      ∀ variant ∈ (schema.strip item).variants,
        (Host.ofSchema schema).variantValues variant = .ok none) ∧
    ∀ file : SourceFile, file.Given →
      ∃ generation, (Host.ofSchema schema).generate file = .ok generation ∧
        ∀ unit ∈ generation.units, ∀ again, Grammar.file unit.tokens = .ok again →
          (Host.ofSchema schema).found again = .ok [] := by
  refine ⟨fun _ _ => strips_iff, fun item => ⟨schema.strip_strip item,
    schema.wrapperOptions_strip item, schema.variantValues_strip item⟩, fun file hfile => ?_⟩
  -- The host reads attributes only, so a search of the file always ends.
  have hanswered : ∀ entry ∈ Item.declaredAll [] file, entry.Answered (.ofSchema schema) :=
    fun entry _ => ⟨_, rfl⟩
  obtain ⟨generation, hgeneration, -⟩ := Host.generate_of_answered hanswered
  exact ⟨generation, hgeneration, fun unit hunit again hagain =>
    Host.found_of_unit hfile hgeneration hunit hagain⟩

/-- An enumeration with two attributes that ask for a wrapper, and a variant with values twice. -/
def repeatedText : String :=
  "mod m \x7b #[w(A)] #[derive(Eq)] #[p::w(B)] pub enum E \x7b #[v(1)] #[p::v] #[v(2)] X \x7d \x7d"

/-- The unit of the example is read again as fifteen items. -/
theorem read_repeatedText :
    ∃ tokens ∈ (SourceText.tokens repeatedText).toOption,
      ∃ file ∈ (Grammar.file tokens).toOption,
        ∃ generation ∈ ((Host.ofSchema ⟨"w", "v"⟩).generate file).toOption,
          ∃ unit ∈ generation.units.head?,
            ∃ again ∈ (Grammar.file unit.tokens).toOption, again.length = 15 := by
  decide +kernel

/-- All fifteen items of the unit are read again, and none of them is found. -/
theorem found_of_repeatedText : ∃ tokens file generation unit again,
    SourceText.tokens repeatedText = .ok tokens ∧ Grammar.file tokens = .ok file ∧
      (Host.ofSchema ⟨"w", "v"⟩).generate file = .ok generation ∧ unit ∈ generation.units ∧
      Grammar.file unit.tokens = .ok again ∧ again.length = 15 ∧
      (Host.ofSchema ⟨"w", "v"⟩).found again = .ok [] := by
  obtain ⟨tokens, htokens, file, hfile, generation, hgeneration, unit, hunit, again, hagain,
    hlength⟩ := read_repeatedText
  have hread : Grammar.file tokens = .ok file := toOption_eq_some_iff.mp hfile
  have hmem : unit ∈ generation.units := List.mem_of_head? hunit
  have hreread : Grammar.file unit.tokens = .ok again := toOption_eq_some_iff.mp hagain
  obtain ⟨other, hother, hnone⟩ := (strip_clears ⟨"w", "v"⟩).2.2 file (.read hread)
  have hsame : generation = other :=
    Except.ok.inj ((toOption_eq_some_iff.mp hgeneration).symm.trans hother)
  exact ⟨tokens, file, generation, unit, again, toOption_eq_some_iff.mp htokens, hread,
    toOption_eq_some_iff.mp hgeneration, hmem, hreread, hlength, hnone unit (hsame ▸ hmem) again
      hreread⟩

end Schema

end ValuedEnum
