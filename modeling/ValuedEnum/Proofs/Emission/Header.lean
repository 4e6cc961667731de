import Mathlib.Data.List.Nodup
import ValuedEnum.Proofs.Slots
import ValuedEnum.Wrapper.Code

/-!
# The headers of implementations

Two implementations conflict if they implement one trait, with the same arguments, for one type. So
this file reads the trait and the type from every emitted implementation. Neither spans, nor marks
of raw identifiers, nor lifetimes tell them apart.
-/

namespace ValuedEnum

open TokenStream Code

/-! ### Words -/

mutual

/-- The words of a tree, without marks of raw identifiers. -/
def TokenTree.words : TokenTree → List String
  | .group .parenthesis inner _ => "(" :: TokenTree.wordsAll inner ++ [")"]
  | .group .brace inner _ => "\x7b" :: TokenTree.wordsAll inner ++ ["\x7d"]
  | .group .bracket inner _ => "[" :: TokenTree.wordsAll inner ++ ["]"]
  | .group .invisible inner _ => TokenTree.wordsAll inner
  | .ident name => [name.bare]
  | .punct char _ _ => [char.toString]
  | .literal text _ => [text]

/-- The words of some trees, in their order. -/
def TokenTree.wordsAll : List TokenTree → List String
  | [] => []
  | tree :: rest => tree.words ++ TokenTree.wordsAll rest

end

namespace TokenStream

/-- Tokens without the lifetimes among them. -/
def withoutLifetimes : TokenStream → TokenStream
  | .punct '\x27' _ _ :: .ident _ :: rest => withoutLifetimes rest
  | tree :: rest => tree :: withoutLifetimes rest
  | [] => []

/-- The words of a type or of a trait. -/
def words (tokens : TokenStream) : List String := TokenTree.wordsAll tokens.withoutLifetimes

end TokenStream

/-- What an implementation is for: a trait with its arguments, and the type that implements it. -/
structure Header where
  interface : List String
  target : List String
deriving DecidableEq

/-- The header of an item that implements a trait. -/
def CodeItem.header? : CodeItem → Option Header
  | .implementation _ interface target _ => some ⟨interface.words, target.words⟩
  | _ => none

/-! ### Types of values -/

namespace ValueType

/-- The types that values can have. -/
def all : List ValueType :=
  [string, byteString, char, bool, float .f32, float .f64] ++ IntegerType.all.map integer

/-- All types of values are listed. -/
theorem mem_all (type : ValueType) : type ∈ all := by
  cases type with
  | integer type => cases type <;> decide
  | float type => cases type <;> decide
  | _ => decide

/-- The words of a type, as they stand in headers. -/
def words : ValueType → List String
  | string => ["&", "str"]
  | byteString => ["&", "[", "u8", "]"]
  | type => [type.name]

/-- The type that a slot is converted to is told by its words. -/
theorem words_output (type : ValueType) : type.output.words = type.words := by
  cases type with
  | integer type => cases type <;> rfl
  | float type => cases type <;> rfl
  | _ => rfl

/-- The type that a slot is converted from has the same words, whatever its lifetime is. -/
theorem words_input (type : ValueType) : type.input.words = type.words := by
  cases type with
  | integer type => cases type <;> rfl
  | float type => cases type <;> rfl
  | _ => rfl

/-- Types of values have names of their own. -/
theorem name_injective {first second : ValueType} (h : first.name = second.name) :
    first = second := by
  have hall : ∀ first ∈ all, ∀ second ∈ all, first.name = second.name → first = second := by
    decide +kernel
  exact hall first first.mem_all second second.mem_all h

/-- Types of values have words of their own. -/
theorem words_injective {first second : ValueType} (h : first.words = second.words) :
    first = second := by
  have hall : ∀ first ∈ all, ∀ second ∈ all, first.words = second.words → first = second := by
    decide +kernel
  exact hall first first.mem_all second second.mem_all h

end ValueType

/-! ### Headers of a wrapper -/

/-- The names of the primitive types. -/
def primitiveNames : List String :=
  ["bool", "char", "str", "f32", "f64"] ++ IntegerType.all.map IntegerType.name

/-- A type of values that is a single word is a primitive one. -/
theorem ValueType.mem_primitiveNames {type : ValueType} {name : String} (h : type.words = [name]) :
    name ∈ primitiveNames := by
  have hall : ∀ type ∈ all, type.words.length = 1 → ∀ name ∈ type.words, name ∈ primitiveNames := by
    decide +kernel
  exact hall type type.mem_all (by simp [h]) name (by simp [h])

namespace Declaration

/-- A wrapper and an enumeration with names of their own. The mark of a raw identifier is no part of
a name. -/
structure NamesApart (declaration : Declaration) : Prop where
  apart : declaration.wrapper.bare ≠ declaration.ident.bare
  wrapper : declaration.wrapper.bare ∉ primitiveNames
  ident : declaration.ident.bare ∉ primitiveNames

variable (declaration : Declaration)

/-- The headers of all emitted implementations of traits. -/
def headers : List Header := declaration.items.filterMap CodeItem.header?

/-- A trait that the wrapper implements. -/
def wrapperHeader (names : List String) : Header :=
  ⟨(core names).words, [declaration.wrapper.bare]⟩

/-- The trait of conversions from a type. -/
def conversionInterface (source : List String) : List String :=
  (core ["convert", if declaration.throwOnCastFailure then "TryFrom" else "From"]).words ++
    "<" :: source ++ [">"]

/-- The conversion of the wrapper to a type. -/
def leavingHeader (target : List String) : Header :=
  ⟨declaration.conversionInterface [declaration.wrapper.bare], target⟩

/-- The conversion of a type to the wrapper. -/
def enteringHeader (source : List String) : Header :=
  ⟨declaration.conversionInterface source, [declaration.wrapper.bare]⟩

/-- The words of the type of a slot. -/
def slotWords (slot : Slot) : List String := (declaration.outputType slot).words

/-- A slot converts to and from one type, up to lifetimes. -/
theorem words_inputType (slot : Slot) :
    (declaration.inputType slot).words = declaration.slotWords slot := by
  cases slot with
  | value index type => exact type.words_input.trans type.words_output.symm
  | _ => rfl

/-- The type of values that a slot converts, if it is one. -/
def valueType? : Slot → Option ValueType
  | .ordinal => some (.integer declaration.repr)
  | .enumeration => none
  | .value _ type => some type

/-- The words of a slot are those of its values' type, or the name of the enumeration. -/
theorem slotWords_eq (slot : Slot) :
    declaration.slotWords slot =
      match declaration.valueType? slot with
      | some type => type.words
      | none => [declaration.ident.bare] := by
  cases slot with
  | enumeration => rfl
  | ordinal => exact (ValueType.integer declaration.repr).words_output
  | value index type => exact type.words_output

/-- A conversion from the wrapper implements the trait with the wrapper as argument. -/
theorem words_conversionTrait_wrapper :
    (declaration.conversionTrait (name declaration.wrapper)).words =
      declaration.conversionInterface [declaration.wrapper.bare] := rfl

/-- A conversion to the wrapper implements the trait with the slot's type as argument. -/
theorem words_conversionTrait_inputType (slot : Slot) :
    (declaration.conversionTrait (declaration.inputType slot)).words =
      declaration.conversionInterface (declaration.slotWords slot) := by
  rw [← words_inputType]
  cases slot with
  | value index type => cases type <;> rfl
  | _ => rfl

/-- Both conversions of a slot are emitted. -/
theorem headers_conversionItems (slot : Slot) :
    (declaration.conversionItems (declaration.conversion slot)).filterMap CodeItem.header? =
      [declaration.leavingHeader (declaration.slotWords slot),
        declaration.enteringHeader (declaration.slotWords slot)] := by
  have hwords : (name declaration.wrapper).words = [declaration.wrapper.bare] := rfl
  simp only [conversionItems, conversionItem, conversion, List.filterMap_cons, CodeItem.header?,
    words_conversionTrait_wrapper, words_conversionTrait_inputType, hwords, List.filterMap_nil]
  rfl

/-- The traits in front of the conversions. -/
def frontTraits : List (List String) :=
  (if declaration.throwOnCastFailure then [] else [["default", "Default"]]) ++
    [["cmp", "PartialEq"], ["cmp", "Eq"], ["hash", "Hash"], ["clone", "Clone"], ["fmt", "Debug"]]

/-- The traits behind the conversions. -/
def backTraits : List (List String) :=
  if .string ∈ declaration.types.getD [] then [["fmt", "Display"]] else []

/-- Both conversions of each slot. -/
def conversionHeaders : List Header :=
  declaration.slots.flatMap fun slot =>
    [declaration.leavingHeader (declaration.slotWords slot),
      declaration.enteringHeader (declaration.slotWords slot)]

/-- The headers of a wrapper: the traits in front, both conversions of each slot, the traits
behind. -/
theorem headers_eq :
    declaration.headers = declaration.frontTraits.map declaration.wrapperHeader ++
      declaration.conversionHeaders ++ declaration.backTraits.map declaration.wrapperHeader := by
  -- Items without a trait have no header; the others are counted group by group.
  have hconversions : (declaration.conversions.flatMap declaration.conversionItems).filterMap
      CodeItem.header? = declaration.conversionHeaders := by
    rw [List.filterMap_flatMap, conversions, List.flatMap_map]
    exact congrArg (List.flatMap · _) (funext declaration.headers_conversionItems)
  have hdefault : declaration.defaultItems.filterMap CodeItem.header? =
      (if declaration.throwOnCastFailure then [] else [["default", "Default"]]).map
        declaration.wrapperHeader := by
    unfold defaultItems
    split <;> rfl
  have hequality : declaration.equalityItems.filterMap CodeItem.header? =
      [["cmp", "PartialEq"], ["cmp", "Eq"], ["hash", "Hash"]].map declaration.wrapperHeader := rfl
  have hclone : declaration.cloneItem.header? =
      some (declaration.wrapperHeader ["clone", "Clone"]) := rfl
  have hdebug : declaration.debugItem.header? =
      some (declaration.wrapperHeader ["fmt", "Debug"]) := rfl
  have hdisplay : declaration.displayItems.filterMap CodeItem.header? =
      declaration.backTraits.map declaration.wrapperHeader := by
    simp only [displayItems, backTraits, ValueType.any_isString_iff]
    split <;> rfl
  have htypes : declaration.wrapperType.header? = none ∧ declaration.ordinalsType.header? = none :=
    ⟨rfl, rfl⟩
  have hbodies : declaration.wrapperBody.header? = none ∧ declaration.ordinalsBody.header? = none :=
    ⟨rfl, rfl⟩
  simp [headers, items, frontTraits, hconversions, hdefault, hdisplay, hequality, hclone, hdebug,
    htypes, hbodies]

end Declaration

end ValuedEnum
