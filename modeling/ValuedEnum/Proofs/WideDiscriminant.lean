import Mathlib.Algebra.Group.Nat.Defs
import ValuedEnum.Proofs.Discriminant

/-!
# Discriminants that are no words

Representations of 128 bits have discriminants that an ordinal does not hold. A literal from 2^64 on
is passed over, as if its variant were given nothing; of all other discriminants the remainder
modulo 2^64 is kept. This file proves what is written for the members of such an enumeration, and
that it is right where all discriminants are words with the sign of the representation.
-/

namespace ValuedEnum

namespace IntegerType

/-- The type of words with the same sign. -/
def word (type : IntegerType) : IntegerType := if type.isUnsigned then .u64 else .i64

/-- The integer in the type of words that is congruent to an integer modulo 2^64. -/
def wrap (type : IntegerType) (value : Int) : Int :=
  if type.isUnsigned then value % 2 ^ 64 else value.bmod (2 ^ 64)

/-- The type of words has at most 64 bits. -/
theorem bits_word (type : IntegerType) : type.word.bits ≤ 64 := by
  cases type <;> decide

/-- For an unsigned representation the words are the numbers below 2^64. -/
theorem holds_word_of_isUnsigned {type : IntegerType} {value : Int}
    (hunsigned : type.isUnsigned = true) :
    type.word.Holds value ↔ 0 ≤ value ∧ value < 2 ^ 64 := by
  have hword : type.word = .u64 := if_pos hunsigned
  rw [hword]
  rfl

/-- For a signed representation the words are the integers from -2^63 up to 2^63. -/
theorem holds_word_of_isSigned {type : IntegerType} {value : Int}
    (hsigned : type.isUnsigned = false) :
    type.word.Holds value ↔ -2 ^ 63 ≤ value ∧ value < 2 ^ 63 := by
  have hword : type.word = .i64 := by simp [word, hsigned]
  rw [hword]
  rfl

/-- Only words with the sign of a type stay as they are. -/
theorem wrap_eq_self_iff {type : IntegerType} {value : Int} :
    type.wrap value = value ↔ type.word.Holds value := by
  unfold wrap
  cases hunsigned : type.isUnsigned with
  | true =>
    rw [holds_word_of_isUnsigned hunsigned, if_pos rfl]
    constructor
    · intro hsame
      omega
    · rintro ⟨hlow, hhigh⟩
      exact Int.emod_eq_of_lt hlow hhigh
  | false =>
    rw [holds_word_of_isSigned hunsigned, if_neg Bool.false_ne_true]
    constructor
    · intro hsame
      have hlow := Int.le_bmod (x := value) (m := 2 ^ 64) (by decide)
      have hhigh := Int.bmod_lt (x := value) (m := 2 ^ 64) (by decide)
      omega
    · rintro ⟨hlow, hhigh⟩
      exact Int.bmod_eq_of_le (by omega) (by omega)

end IntegerType

namespace Ordinal

/-- The word of an integer is that integer in the type of words. -/
theorem valueIn_ofInt_eq_wrap (repr : IntegerType) (value : Int) :
    valueIn repr (Int64.ofInt value) = repr.wrap value := by
  unfold valueIn IntegerType.wrap
  cases repr.isUnsigned with
  | true =>
    have hnat : (Int64.ofInt value).toUInt64.toNat = (value % 2 ^ 64).toNat := by
      rw [← Int64.toNat_toBitVec, Int64.toBitVec_ofInt, BitVec.toNat_ofInt]
      rfl
    have hnonneg : 0 ≤ value % 2 ^ 64 := Int.emod_nonneg value (by decide)
    rw [if_pos rfl, if_pos rfl, hnat, Int.toNat_of_nonneg hnonneg]
  | false =>
    rw [if_neg Bool.false_ne_true, if_neg Bool.false_ne_true]
    exact Int64.toInt_ofInt

end Ordinal

namespace Variant

/-- The variant as it is read: a literal from 2^64 on counts as no expression. -/
def asRead (variant : Variant) : Variant :=
  { variant with
    discriminant := variant.discriminant.filter fun given =>
      given.value.integer?.all (·.natAbs < UInt64.size) }

/-- As it is read, no variant is given a literal from 2^64 on. -/
theorem givesWord_asRead (variant : Variant) : variant.asRead.GivesWord := by
  intro given hgiven value hvalue
  obtain ⟨_, hall⟩ := Option.filter_eq_some_iff.mp (Option.mem_def.mp hgiven)
  simpa [hvalue] using hall

/-- The same is true of all variants of an enumeration. -/
theorem givesWord_of_mem_asRead {variants : List Variant} :
    ∀ variant ∈ variants.map asRead, variant.GivesWord := by
  intro variant hvariant
  obtain ⟨origin, _, rfl⟩ := List.mem_map.mp hvariant
  exact origin.givesWord_asRead

/-- A variant that is given a word is read as it is. -/
theorem GivesWord.asRead {variant : Variant} (h : variant.GivesWord) : variant.asRead = variant := by
  have hsame : (variant.discriminant.filter fun given =>
      given.value.integer?.all (·.natAbs < UInt64.size)) = variant.discriminant := by
    cases hgiven : variant.discriminant with
    | none => rfl
    | some given =>
      cases hvalue : given.value.integer? with
      | none => simp [Option.filter, hvalue]
      | some value => simpa [Option.filter, hvalue] using h given hgiven value hvalue
  rw [Variant.asRead, hsame]

/-- What is passed over gives a variant no ordinal. -/
theorem literalInitializer_asRead (variant : Variant) :
    Host.literalInitializer variant.asRead = Host.literalInitializer variant := by
  unfold Host.literalInitializer Variant.asRead
  cases hgiven : variant.discriminant with
  | none => rfl
  | some given =>
    cases hvalue : given.value.integer? with
    | none => simp [Option.filter, hvalue]
    | some value =>
      by_cases hword : value.natAbs < UInt64.size
      · simp [Option.filter, hvalue, hword]
      · have hread := Ordinal.ofExpr?_of_integer? hvalue
        simp [Option.filter, hvalue, hword, hread]

end Variant

namespace Resolution

variable {schema : Schema}

/-- A step finds the same in a variant as it is read. -/
theorem step_asRead (variant : Variant) (preset : Int64) :
    step (.ofSchema schema) variant.asRead preset = step (.ofSchema schema) variant preset := by
  have hinitializer : (Host.ofSchema schema).initializer variant.asRead =
      (Host.ofSchema schema).initializer variant :=
    congrArg Except.ok variant.literalInitializer_asRead
  unfold step
  rw [hinitializer]
  rfl

/-- Variants have the members that they have as they are read. -/
theorem Finds.asRead {variants : List Variant} {preset : Int64} {members : List Member}
    (h : Finds (.ofSchema schema) variants preset members) :
    Finds (.ofSchema schema) (variants.map Variant.asRead) preset members := by
  induction h with
  | nil => exact .nil
  | untagged hstep _ ih => exact .untagged ((step_asRead _ _).trans hstep) ih
  | member hstep _ ih => exact .member ((step_asRead _ _).trans hstep) ih

end Resolution

/-- What is left of literals are literals. -/
theorem isSome_of_asRead {variants : List Variant}
    (h : ∀ variant ∈ variants, ∀ given ∈ variant.discriminant, given.value.integer?.isSome) :
    ∀ variant ∈ variants.map Variant.asRead, ∀ given ∈ variant.discriminant,
      given.value.integer?.isSome := by
  intro variant hvariant given hgiven
  obtain ⟨origin, horigin, rfl⟩ := List.mem_map.mp hvariant
  obtain ⟨hgiven, _⟩ := Option.filter_eq_some_iff.mp (Option.mem_def.mp hgiven)
  exact h origin horigin given (Option.mem_def.mpr hgiven)

namespace Declaration

/-- What is written for the members of an enumeration with integer literals for its discriminants.
Literals from 2^64 on are passed over, and each discriminant is written modulo 2^64, in the type of
words with the sign of the representation. So each one is written as it is if all of them are such
words. Representations of 128 bits have other discriminants, too. -/
theorem wrapped_ordinals_of_resolve {schema : Schema} {item : EnumItem} {fullName : String}
    {options : Except Problem WrapperOptions} {declaration : Declaration} {repr : IntegerType}
    {evaluate : Expr → Int}
    (hresolve : (resolve (.ofSchema schema) item fullName options).2 = .ok declaration)
    (hrepr : item.Represented repr) (hevaluate : ReadsIntegers evaluate)
    (hliterals : ∀ variant ∈ item.variants, ∀ given ∈ variant.discriminant,
      given.value.integer?.isSome) :
    (declaration.members.map fun member =>
        (member.ident, (Ordinal.tokens declaration.repr member.ordinal).integer?)) =
      (((item.variants.zip (discriminants evaluate (item.variants.map Variant.asRead) 0)).filter
        fun pair => schema.tags pair.1).map fun pair => (pair.1.ident, some (repr.wrap pair.2))) ∧
    ((∀ value ∈ discriminants evaluate item.variants 0, repr.word.Holds value) →
      (declaration.members.map fun member =>
          (member.ident, (Ordinal.tokens declaration.repr member.ordinal).integer?)) =
        ((item.variants.zip (discriminants evaluate item.variants 0)).filter fun pair =>
          schema.tags pair.1).map fun pair => (pair.1.ident, some pair.2)) := by
  have hsame := repr_of_resolve hresolve hrepr
  obtain ⟨wrapper, found, members, _, _, _, hfinds, rfl⟩ := resolve_eq_ok hresolve
  have hzero : true = true → (0 : Int64) = Int64.ofInt 0 := fun _ => rfl
  -- As they are read, all variants are given words or nothing, so what is known of word
  -- discriminants applies to them.
  have hwords := hfinds.asRead.words hevaluate hzero
    (countedFromLiterals_of_isSome schema (isSome_of_asRead hliterals))
    Variant.givesWord_of_mem_asRead
  have hwritten := congrArg (List.map fun entry : Ident × Int64 =>
    (entry.1, (Ordinal.tokens repr entry.2).integer?)) hwords
  rw [List.map_map, List.map_map, List.zip_map_left, List.filter_map, List.map_map] at hwritten
  rw [hsame]
  have hwrapped : (members.map fun member =>
        (member.ident, (Ordinal.tokens repr member.ordinal).integer?)) =
      ((item.variants.zip (discriminants evaluate (item.variants.map Variant.asRead) 0)).filter
        fun pair => schema.tags pair.1).map fun pair => (pair.1.ident, some (repr.wrap pair.2)) := by
    refine hwritten.trans (List.map_congr_left fun pair _ => ?_)
    simp only [Function.comp_apply, Ordinal.integer?_tokens, Ordinal.valueIn_ofInt_eq_wrap]
    rfl
  refine ⟨hwrapped, fun hholds => hwrapped.trans ?_⟩
  have hbounds : ∀ value ∈ discriminants evaluate item.variants 0,
      -2 ^ 63 ≤ value ∧ value < 2 ^ 64 := fun value hvalue =>
    (hholds value hvalue).bounds repr.bits_word
  -- Discriminants that are words are read as they are written, and wrapping keeps them.
  have hread : item.variants.map Variant.asRead = item.variants :=
    (List.map_congr_left fun variant hvariant =>
      (Resolution.givesWord_of_bounds hevaluate hbounds variant hvariant).asRead).trans
      (List.map_id' _)
  rw [hread]
  refine List.map_congr_left fun pair hpair => ?_
  have hvalue := (List.of_mem_zip (List.mem_filter.mp hpair).1).2
  rw [IntegerType.wrap_eq_self_iff.mpr (hholds pair.2 hvalue)]

/-- The last unsigned word, its successor, and a literal beyond the words. -/
def beyondItem : EnumItem :=
  .ofVariants "Mark" [.ofTokens "repr" (TokenStream.word "u128")]
    [.ofTexts "Last" (some "1") (some (.literal [] ⟨"18446744073709551615", .nowhere⟩)),
      .ofTexts "Next" (some "2") none,
      .ofTexts "Beyond" (some "3") (some (.literal [] ⟨"18446744073709551621", .nowhere⟩))]

/-- The declaration that the enumeration is resolved to. -/
def beyond : Declaration where
  visibility := .inherited
  repr := .u128
  ident := .ofText "Mark"
  fullName := "Mark"
  wrapper := .ofText "Position"
  convertOrdinal := true
  throwOnCastFailure := true
  variants := [.ofText "Last", .ofText "Next", .ofText "Beyond"]
  members := [⟨.ofText "Last", -1, [⟨.integer .i32, false, ⟨"1", .nowhere⟩⟩]⟩,
    ⟨.ofText "Next", 0, [⟨.integer .i32, false, ⟨"2", .nowhere⟩⟩]⟩,
    ⟨.ofText "Beyond", 1, [⟨.integer .i32, false, ⟨"3", .nowhere⟩⟩]⟩]
  types := some [.integer .i32]

/-- The example is resolved. -/
theorem resolve_beyond :
    (resolve (.ofSchema .standard) beyondItem "Mark" (.ok ⟨.ofText "Position", true, true⟩)).2 =
      .ok beyond := by rfl

/-- The discriminants of the example have the type that its attribute names. -/
theorem represented_beyond : beyondItem.Represented .u128 := by
  have htypes : beyondItem.reprTypes = [.u128] := by rfl
  simp [EnumItem.Represented, htypes]

/-- The discriminants of the example are given by integer literals. -/
theorem integer?_beyond : ∀ variant ∈ beyondItem.variants, ∀ given ∈ variant.discriminant,
    given.value.integer?.isSome := by decide

/-- The successor of the last word is written as zero, and counting goes on from there. -/
theorem wrapped_ordinals_of_beyond :
    ((resolve (.ofSchema .standard) beyondItem "Mark" (.ok ⟨.ofText "Position", true, true⟩)).2 =
        .ok beyond ∧
      beyondItem.Represented .u128 ∧ ReadsIntegers (Expr.integerOr 0) ∧
      discriminants (Expr.integerOr 0) beyondItem.variants 0 =
        [2 ^ 64 - 1, 2 ^ 64, 2 ^ 64 + 5]) ∧
      (beyond.members.map fun member =>
          (member.ident, (Ordinal.tokens beyond.repr member.ordinal).integer?)) =
        [(.ofText "Last", some (2 ^ 64 - 1)), (.ofText "Next", some 0),
          (.ofText "Beyond", some 1)] := by
  have hevaluate := readsIntegers_integerOr 0
  refine ⟨⟨resolve_beyond, represented_beyond, hevaluate, by rfl⟩, ?_⟩
  exact (wrapped_ordinals_of_resolve resolve_beyond represented_beyond hevaluate
    integer?_beyond).1.trans (by rfl)

/-- The enumeration with 2^63 as a signed discriminant of 128 bits. -/
def halfItem : EnumItem :=
  .ofVariants "Mark" [.ofTokens "repr" (TokenStream.word "i128")]
    [.ofTexts "Half" (some "1") (some (.literal [] ⟨"9223372036854775808", .nowhere⟩))]

/-- The declaration that this enumeration is resolved to. -/
def half : Declaration where
  visibility := .inherited
  repr := .i128
  ident := .ofText "Mark"
  fullName := "Mark"
  wrapper := .ofText "Position"
  convertOrdinal := true
  throwOnCastFailure := true
  variants := [.ofText "Half"]
  members := [⟨.ofText "Half", Int64.minValue, [⟨.integer .i32, false, ⟨"1", .nowhere⟩⟩]⟩]
  types := some [.integer .i32]

/-- Both types of 128 bits are accepted, but not all of their integers are written as they are: 2^63
gets a minus sign in the signed type, and 2^64 is zero in the unsigned one. -/
theorem wide_ordinals_not_discriminants :
    ((resolve (.ofSchema .standard) halfItem "Mark" (.ok ⟨.ofText "Position", true, true⟩)).2 =
        .ok half ∧
      halfItem.Represented .i128 ∧
      discriminants (Expr.integerOr 0) halfItem.variants 0 = [2 ^ 63] ∧
      IntegerType.i128.Holds (2 ^ 63) ∧
      (half.members.map fun member => (Ordinal.tokens half.repr member.ordinal).integer?) =
        [some (-2 ^ 63)]) ∧
    (resolve (.ofSchema .standard) beyondItem "Mark" (.ok ⟨.ofText "Position", true, true⟩)).2 =
        .ok beyond ∧
      beyondItem.Represented .u128 ∧
      discriminants (Expr.integerOr 0) beyondItem.variants 0 =
        [2 ^ 64 - 1, 2 ^ 64, 2 ^ 64 + 5] ∧
      (∀ value ∈ [2 ^ 64 - 1, 2 ^ 64, 2 ^ 64 + 5], IntegerType.u128.Holds value) ∧
      (beyond.members.map fun member => (Ordinal.tokens beyond.repr member.ordinal).integer?) =
        [some (2 ^ 64 - 1), some 0, some 1] := by
  have hhalf : halfItem.Represented .i128 := by
    have htypes : halfItem.reprTypes = [.i128] := by rfl
    simp [EnumItem.Represented, htypes]
  have hsigned : IntegerType.i128.Holds (2 ^ 63) := by
    simp [IntegerType.Holds, IntegerType.isUnsigned, IntegerType.bits]
  have hunsigned : ∀ value ∈ [2 ^ 64 - 1, 2 ^ 64, 2 ^ 64 + 5], IntegerType.u128.Holds value := by
    simp [IntegerType.Holds, IntegerType.isUnsigned, IntegerType.bits]
  exact ⟨⟨by rfl, hhalf, by rfl, hsigned, by rfl⟩, resolve_beyond, represented_beyond, by rfl,
    hunsigned, by rfl⟩

end Declaration

end ValuedEnum
