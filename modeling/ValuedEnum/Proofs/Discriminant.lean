import Mathlib.Algebra.Ring.Int.Defs
import ValuedEnum.Proofs.Decimal
import ValuedEnum.Proofs.Resolution

/-!
# Discriminants and ordinals

The discriminants of an enumeration are integers: the first variant has zero and each other one the
successor of its predecessor, unless an expression gives it another one. An ordinal is the
discriminant modulo 2^64, and it is written as the discriminant again.
-/

namespace ValuedEnum

/-! ### The compiler's side -/

namespace IntegerType

/-- The width of a type, on machines whose addresses have 64 bits. -/
def bits : IntegerType → Nat
  | i8 | u8 => 8
  | i16 | u16 => 16
  | i32 | u32 => 32
  | i64 | u64 | isize | usize => 64
  | i128 | u128 => 128

/-- The integers that a type can represent. -/
def Holds (type : IntegerType) (value : Int) : Prop :=
  if type.isUnsigned then 0 ≤ value ∧ value < 2 ^ type.bits
  else -2 ^ (type.bits - 1) ≤ value ∧ value < 2 ^ (type.bits - 1)

/-- An unsigned type of at most 64 bits represents unsigned words. -/
theorem Holds.unsigned {type : IntegerType} {value : Int} (h : type.Holds value)
    (hbits : type.bits ≤ 64) (hunsigned : type.isUnsigned = true) :
    0 ≤ value ∧ value < 2 ^ 64 := by
  cases type <;> simp [bits, Holds, isUnsigned] at hbits hunsigned h <;> omega

/-- A signed type of at most 64 bits represents signed words. -/
theorem Holds.signed {type : IntegerType} {value : Int} (h : type.Holds value)
    (hbits : type.bits ≤ 64) (hsigned : type.isUnsigned = false) :
    -2 ^ 63 ≤ value ∧ value < 2 ^ 63 := by
  cases type <;> simp [bits, Holds, isUnsigned] at hbits hsigned h <;> omega

/-- A type of at most 64 bits represents words only, signed or not. -/
theorem Holds.bounds {type : IntegerType} {value : Int} (h : type.Holds value)
    (hbits : type.bits ≤ 64) : -2 ^ 63 ≤ value ∧ value < 2 ^ 64 := by
  cases hunsigned : type.isUnsigned with
  | true =>
    have hbounds := h.unsigned hbits hunsigned
    omega
  | false =>
    have hbounds := h.signed hbits hunsigned
    omega

end IntegerType

namespace Expr

/-- The value of an integer literal, perhaps in invisible groups. -/
def magnitude? : Expr → Option Nat
  | .literal _ lit =>
    match lit.kind with
    | .integer value _ => some value
    | _ => none
  | .group _ inner _ => inner.magnitude?
  | _ => none

/-- The value of an integer literal, perhaps behind one minus sign and in invisible groups. -/
def integer? : Expr → Option Int
  | .unary _ '-' _ operand => operand.magnitude?.map fun value : Nat => -(value : Int)
  | .group _ inner _ => inner.integer?
  | expr => expr.magnitude?.map fun value : Nat => (value : Int)

end Expr

/-- The discriminant of a variant that would have `next` if it were not given another one. Constant
expressions have the values that `evaluate` says. -/
def Variant.value (evaluate : Expr → Int) (variant : Variant) (next : Int) : Int :=
  match variant.discriminant with
  | some given => evaluate given.value
  | none => next

/-- The discriminants of some variants, of which the first one has `next` unless it is given another
one. -/
def discriminants (evaluate : Expr → Int) : List Variant → (next : Int) → List Int
  | [], _ => []
  | variant :: rest, next =>
    variant.value evaluate next :: discriminants evaluate rest (variant.value evaluate next + 1)

/-- Each variant has a discriminant. -/
@[simp] theorem length_discriminants (evaluate : Expr → Int) (variants : List Variant)
    (next : Int) : (discriminants evaluate variants next).length = variants.length := by
  induction variants generalizing next with
  | nil => rfl
  | cons variant rest ih => simp [discriminants, ih]

/-- An evaluation that gives integer literals their values. -/
def ReadsIntegers (evaluate : Expr → Int) : Prop :=
  ∀ expr value, expr.integer? = some value → evaluate expr = value

/-- The evaluation that gives all other expressions one value. -/
def Expr.integerOr (preset : Int) (expr : Expr) : Int := expr.integer?.getD preset

/-- That evaluation gives integer literals their values. -/
theorem readsIntegers_integerOr (preset : Int) : ReadsIntegers (Expr.integerOr preset) :=
  fun expr value hvalue => by simp [Expr.integerOr, hvalue]

/-! ### Ordinals are words -/

namespace Ordinal

/-- Invisible groups around an expression do not matter. -/
@[simp] theorem ofExpr?_ungrouped (expr : Expr) : ofExpr? expr.ungrouped = ofExpr? expr := by
  induction expr with
  | group attributes inner span ih => exact ih
  | _ => rfl

/-- Integer literals below 2^64 are words. -/
theorem ofLit?_of_kind {lit : Lit} {value : Nat} {suffix : List Char}
    (h : lit.kind = .integer value suffix) :
    ofLit? lit = if value < UInt64.size then some (Int64.ofNat value) else none := by
  simp only [ofLit?, h]

/-- What has a magnitude is an integer literal below all groups. -/
theorem ungrouped_of_magnitude? {expr : Expr} {value : Nat} (h : expr.magnitude? = some value) :
    ∃ attributes lit suffix, expr.ungrouped = .literal attributes lit ∧
      lit.kind = .integer value suffix := by
  induction expr with
  | literal attributes lit =>
    simp only [Expr.magnitude?] at h
    split at h
    · rename_i magnitude suffix hkind
      obtain rfl : magnitude = value := Option.some.inj h
      exact ⟨attributes, lit, suffix, rfl, hkind⟩
    · contradiction
  | group attributes inner span ih => exact ih h
  | _ => simp [Expr.magnitude?] at h

/-- An integer literal is read as the word that it is congruent to, whatever its sign, if it is
below 2^64 without its sign. A larger one is not read. -/
theorem ofExpr?_of_integer? {expr : Expr} {value : Int} (h : expr.integer? = some value) :
    ofExpr? expr = if value.natAbs < UInt64.size then some (Int64.ofInt value) else none := by
  induction expr with
  | literal attributes lit =>
    obtain ⟨magnitude, hmagnitude, rfl⟩ := Option.map_eq_some_iff.mp h
    obtain ⟨_, _, suffix, hungrouped, hkind⟩ := ungrouped_of_magnitude? hmagnitude
    cases hungrouped
    rw [ofExpr?, ofLit?_of_kind hkind, Int.natAbs_natCast, Int64.ofInt_eq_ofNat]
  | unary attributes operator sign operand =>
    unfold Expr.integer? at h
    split at h
    · rename_i heq
      cases heq
      obtain ⟨magnitude, hmagnitude, rfl⟩ := Option.map_eq_some_iff.mp h
      obtain ⟨_, lit, suffix, hungrouped, hkind⟩ := ungrouped_of_magnitude? hmagnitude
      simp only [ofExpr?, hungrouped, ofLit?_of_kind hkind, Int.natAbs_neg, Int.natAbs_natCast,
        Int64.ofInt_neg, Int64.ofInt_eq_ofNat]
      split <;> rfl
    · contradiction
    · simp [Expr.magnitude?] at h
  | group attributes inner span ih => exact ih h
  | other form tokens => simp [Expr.integer?, Expr.magnitude?] at h

/-- The integer that a word is in a type: it is read as signed or as unsigned. -/
def valueIn (repr : IntegerType) (ordinal : Int64) : Int :=
  if repr.isUnsigned then ordinal.toUInt64.toNat else ordinal.toInt

/-- A word is written as the integer that it is in its type. -/
theorem integer?_tokens (repr : IntegerType) (ordinal : Int64) :
    (tokens repr ordinal).integer? = some (valueIn repr ordinal) := by
  unfold tokens valueIn
  cases repr.isUnsigned with
  | true => simp only [if_true, integer?_digits]
  | false =>
    simp only [Bool.false_eq_true, if_false, Int64.lt_iff_toInt_lt, Int64.toInt_zero]
    split
    · rw [integer?_minus_digits]
      exact congrArg some (by omega)
    · rw [integer?_digits]
      exact congrArg some (by omega)

/-- The word of an integer that a type represents is that integer again. -/
theorem valueIn_ofInt {repr : IntegerType} {value : Int} (hbits : repr.bits ≤ 64)
    (hholds : repr.Holds value) : valueIn repr (Int64.ofInt value) = value := by
  unfold valueIn
  cases hunsigned : repr.isUnsigned with
  | true =>
    obtain ⟨hlow, hhigh⟩ := hholds.unsigned hbits hunsigned
    have hnat : (Int64.ofInt value).toUInt64.toNat = value.toNat := by
      rw [← Int64.toNat_toBitVec, Int64.toBitVec_ofInt, BitVec.toNat_ofInt]
      exact congrArg Int.toNat (Int.emod_eq_of_lt hlow hhigh)
    simp only [if_true, hnat, Int.toNat_of_nonneg hlow]
  | false =>
    obtain ⟨hlow, hhigh⟩ := hholds.signed hbits hunsigned
    exact Int64.toInt_ofInt_of_le hlow hhigh

/-- Different words are different integers. -/
theorem valueIn_injective (repr : IntegerType) {first second : Int64}
    (h : valueIn repr first = valueIn repr second) : first = second := by
  unfold valueIn at h
  cases hunsigned : repr.isUnsigned with
  | true =>
    simp only [hunsigned, if_true, Int.natCast_inj] at h
    exact Int64.toBitVec.inj (BitVec.eq_of_toNat_eq h)
  | false =>
    simp only [hunsigned, Bool.false_eq_true, if_false] at h
    exact Int64.toInt_inj.mp h

end Ordinal

/-! ### The ordinals of members -/

/-- Whether the attributes of a variant make it a member. -/
def Schema.tags (schema : Schema) (variant : Variant) : Bool :=
  variant.attributes.any schema.isValue

/-- Whether a discriminant is counted from an integer literal, or from the start: the last
expression that is given at the variant or in front of it is one. -/
def Variant.counted (variant : Variant) (before : Bool) : Bool :=
  match variant.discriminant with
  | some given => given.value.integer?.isSome
  | none => before

/-- A variant that is given no integer literal from 2^64 on, without its sign. -/
def Variant.GivesWord (variant : Variant) : Prop :=
  ∀ given ∈ variant.discriminant, ∀ value, given.value.integer? = some value →
    value.natAbs < UInt64.size

/-- All tagged variants have discriminants that are counted from integer literals. -/
def CountedFromLiterals (schema : Schema) : (before : Bool) → List Variant → Prop
  | _, [] => True
  | before, variant :: rest =>
    (schema.tags variant = true → variant.counted before = true) ∧
      CountedFromLiterals schema (variant.counted before) rest

namespace Resolution

variable {schema : Schema} {variant : Variant} {preset : Int64}

/-- The host that reads attributes makes members of the variants that the schema tags. -/
theorem tags_of_step_untagged {ordinal : Int64}
    (h : step (.ofSchema schema) variant preset = .untagged ordinal) :
    schema.tags variant = false := by
  obtain ⟨_, given, _, hvalues, _⟩ := step_eq_untagged_iff.mp h
  simpa [Host.ofSchema, Schema.tags] using hvalues

/-- A variant that becomes a member is tagged. -/
theorem tags_of_step_member {member : Member}
    (h : step (.ofSchema schema) variant preset = .member member) :
    schema.tags variant = true := by
  obtain ⟨_, given, values, _, hvalues, _⟩ := step_eq_member_iff.mp h
  simp only [Host.ofSchema, Except.ok.injEq, Option.map_eq_some_iff] at hvalues
  obtain ⟨attr, hattr, _⟩ := hvalues
  exact List.any_eq_true.mpr ⟨attr, List.mem_of_find?_eq_some hattr, List.find?_some hattr⟩

/-- A counted discriminant is carried on as the word that it is congruent to. -/
theorem literalInitializer_getD {evaluate : Expr → Int} (hevaluate : ReadsIntegers evaluate)
    {before : Bool} {next : Int} (hpreset : before = true → preset = Int64.ofInt next)
    (hcounted : variant.counted before = true) (hword : variant.GivesWord) :
    (Host.literalInitializer variant).getD preset =
      Int64.ofInt (variant.value evaluate next) := by
  unfold Variant.counted at hcounted
  unfold Variant.GivesWord at hword
  unfold Variant.value Host.literalInitializer
  cases hgiven : variant.discriminant with
  | none =>
    simp only [hgiven] at hcounted
    simpa using hpreset hcounted
  | some given =>
    simp only [hgiven] at hcounted
    obtain ⟨value, hvalue⟩ := Option.isSome_iff_exists.mp hcounted
    have hbelow : value.natAbs < UInt64.size := hword given hgiven value hvalue
    have hread := Ordinal.ofExpr?_of_integer? hvalue
    simp [hread, hbelow, hevaluate _ _ hvalue]

/-- Counting up from a word goes on to the word of the next integer. -/
theorem literalInitializer_succ {evaluate : Expr → Int} (hevaluate : ReadsIntegers evaluate)
    {before : Bool} {next : Int} (hpreset : before = true → preset = Int64.ofInt next)
    (hcounted : variant.counted before = true) (hword : variant.GivesWord) :
    (Host.literalInitializer variant).getD preset + 1 =
      Int64.ofInt (variant.value evaluate next + 1) := by
  rw [literalInitializer_getD hevaluate hpreset hcounted hword, Int64.ofInt_add]
  rfl

/-- The members are the tagged variants, with the words of their discriminants as ordinals. The
induction carries that the ordinal is the word of the discriminant as long as it is counted. -/
theorem Finds.words {evaluate : Expr → Int} (hevaluate : ReadsIntegers evaluate)
    {variants : List Variant} {members : List Member}
    (hfinds : Finds (.ofSchema schema) variants preset members) {before : Bool} {next : Int}
    (hpreset : before = true → preset = Int64.ofInt next)
    (hcounted : CountedFromLiterals schema before variants)
    (hwords : ∀ variant ∈ variants, variant.GivesWord) :
    (members.map fun member => (member.ident, member.ordinal)) =
      ((variants.zip (discriminants evaluate variants next)).filter fun pair =>
        schema.tags pair.1).map fun pair => (pair.1.ident, Int64.ofInt pair.2) := by
  induction hfinds generalizing before next with
  | nil => rfl
  | @untagged variant rest preset ordinal members hstep hrest ih =>
    have htags := tags_of_step_untagged hstep
    obtain ⟨_, given, hgiven, _, rfl⟩ := step_eq_untagged_iff.mp hstep
    obtain rfl : Host.literalInitializer variant = given := Except.ok.inj hgiven
    obtain ⟨hword, hrestwords⟩ := List.forall_mem_cons.mp hwords
    rw [ih (literalInitializer_succ hevaluate hpreset · hword) hcounted.2 hrestwords]
    simp [discriminants, htags]
  | @member variant rest preset member members hstep hrest ih =>
    have htags := tags_of_step_member hstep
    obtain ⟨_, given, values, hgiven, _, rfl⟩ := step_eq_member_iff.mp hstep
    obtain rfl : Host.literalInitializer variant = given := Except.ok.inj hgiven
    obtain ⟨hword, hrestwords⟩ := List.forall_mem_cons.mp hwords
    have hordinal := literalInitializer_getD hevaluate hpreset (hcounted.1 htags) hword
    rw [List.map_cons, hordinal,
      ih (literalInitializer_succ hevaluate hpreset · hword) hcounted.2 hrestwords]
    simp [discriminants, htags]

/-- Discriminants between -2^63 and 2^64 are given by words. -/
theorem givesWord_of_bounds {evaluate : Expr → Int} (hevaluate : ReadsIntegers evaluate)
    {variants : List Variant} {next : Int}
    (hbounds : ∀ value ∈ discriminants evaluate variants next, -2 ^ 63 ≤ value ∧ value < 2 ^ 64) :
    ∀ variant ∈ variants, variant.GivesWord := by
  induction variants generalizing next with
  | nil => simp
  | cons variant rest ih =>
    obtain ⟨hfirst, hrest⟩ := List.forall_mem_cons.mp hbounds
    refine List.forall_mem_cons.mpr ⟨?_, ih hrest⟩
    intro given hgiven value hvalue
    have hvariant : variant.value evaluate next = value := by
      simp only [Variant.value, Option.mem_def.mp hgiven, hevaluate _ _ hvalue]
    have hsize : UInt64.size = 2 ^ 64 := rfl
    omega

/-- Members have the words of their discriminants as ordinals if these are words themselves. -/
theorem Finds.ordinals {evaluate : Expr → Int} (hevaluate : ReadsIntegers evaluate)
    {variants : List Variant} {members : List Member}
    (hfinds : Finds (.ofSchema schema) variants preset members) {before : Bool} {next : Int}
    (hpreset : before = true → preset = Int64.ofInt next)
    (hcounted : CountedFromLiterals schema before variants)
    (hbounds : ∀ value ∈ discriminants evaluate variants next, -2 ^ 63 ≤ value ∧ value < 2 ^ 64) :
    (members.map fun member => (member.ident, member.ordinal)) =
      ((variants.zip (discriminants evaluate variants next)).filter fun pair =>
        schema.tags pair.1).map fun pair => (pair.1.ident, Int64.ofInt pair.2) :=
  hfinds.words hevaluate hpreset hcounted (givesWord_of_bounds hevaluate hbounds)

end Resolution

/-- If every expression that is given is an integer literal, all discriminants are counted. -/
theorem countedFromLiterals_of_isSome (schema : Schema) {variants : List Variant}
    (h : ∀ variant ∈ variants, ∀ given ∈ variant.discriminant, given.value.integer?.isSome) :
    CountedFromLiterals schema true variants := by
  induction variants with
  | nil => trivial
  | cons variant rest ih =>
    obtain ⟨hvariant, hrest⟩ := List.forall_mem_cons.mp h
    have hcounted : variant.counted true = true := by
      unfold Variant.counted
      cases hgiven : variant.discriminant with
      | none => rfl
      | some given => exact hvariant given hgiven
    refine ⟨fun _ => hcounted, ?_⟩
    rw [hcounted]
    exact ih hrest

/-! ### The representation -/

/-- The integer types that an attribute names if it is one for the representation. -/
def Attribute.reprTypes (attr : Attribute) : List IntegerType :=
  if attr.path.isWord "repr" then
    match Host.attributeArguments attr Grammar.contents with
    | .ok contents => contents.filterMap Declaration.primitive?
    | .error _ => []
  else []

namespace EnumItem

/-- The integer types that the attributes of an enumeration name for its representation. -/
def reprTypes (item : EnumItem) : List IntegerType := item.attributes.flatMap Attribute.reprTypes

/-- Discriminants have the one type that the attributes name, or `i32` if they name none. -/
def Represented (item : EnumItem) (repr : IntegerType) : Prop :=
  (∀ type ∈ item.reprTypes, type = repr) ∧ (item.reprTypes = [] → repr = .i32)

end EnumItem

namespace Declaration

/-- The representation is the first type that is named, or `i32` if none is. -/
theorem representation_eq {attributes : List Attribute} {repr : IntegerType}
    (h : representation attributes = .ok repr) :
    repr = (attributes.flatMap Attribute.reprTypes).head?.getD .i32 := by
  induction attributes with
  | nil => exact (Except.ok.inj h).symm
  | cons attr rest ih =>
    rw [List.flatMap_cons, List.head?_append, Attribute.reprTypes]
    unfold representation at h
    cases hword : attr.path.isWord "repr" with
    | false =>
      simp only [hword, Bool.false_eq_true, if_false] at h ⊢
      simpa using ih h
    | true =>
      cases hcontents : Host.attributeArguments attr Grammar.contents with
      | error problem => simp [hword, hcontents] at h
      | ok contents =>
        simp only [hword, hcontents, if_true, List.head?_filterMap] at h ⊢
        cases hfound : contents.findSome? primitive? with
        | none =>
          simp only [hfound] at h
          simpa using ih h
        | some type =>
          simp only [hfound, Except.ok.injEq] at h
          simp [h]

/-- A declaration has the representation of its enumeration. -/
theorem repr_of_resolve {host : Host} {item : EnumItem} {fullName : String}
    {options : Except Problem WrapperOptions} {declaration : Declaration} {repr : IntegerType}
    (hresolve : (resolve host item fullName options).2 = .ok declaration)
    (hrepr : item.Represented repr) : declaration.repr = repr := by
  obtain ⟨wrapper, found, members, _, _, hfound, _, rfl⟩ := resolve_eq_ok hresolve
  change found = repr
  rw [representation_eq hfound, ← EnumItem.reprTypes]
  cases htypes : item.reprTypes with
  | nil => exact (hrepr.2 htypes).symm
  | cons type rest => exact hrepr.1 type (htypes ▸ List.mem_cons_self)

/-- The ordinal of every member is written as the discriminant of its variant, if the discriminants
are counted from integer literals and fit a representation of at most 64 bits. -/
theorem ordinals_of_resolve {schema : Schema} {item : EnumItem} {fullName : String}
    {options : Except Problem WrapperOptions} {declaration : Declaration} {repr : IntegerType}
    {evaluate : Expr → Int}
    (hresolve : (resolve (.ofSchema schema) item fullName options).2 = .ok declaration)
    (hrepr : item.Represented repr) (hbits : repr.bits ≤ 64) (hevaluate : ReadsIntegers evaluate)
    (hliterals : ∀ variant ∈ item.variants, ∀ given ∈ variant.discriminant,
      given.value.integer?.isSome)
    (hholds : ∀ value ∈ discriminants evaluate item.variants 0, repr.Holds value) :
    (declaration.members.map fun member =>
        (member.ident, (Ordinal.tokens declaration.repr member.ordinal).integer?)) =
      ((item.variants.zip (discriminants evaluate item.variants 0)).filter fun pair =>
        schema.tags pair.1).map fun pair => (pair.1.ident, some pair.2) := by
  have hsame := repr_of_resolve hresolve hrepr
  obtain ⟨wrapper, found, members, _, _, _, hfinds, rfl⟩ := resolve_eq_ok hresolve
  -- Each ordinal is the discriminant as a word, and at most 64 bits are written back as they were.
  have hordinals := hfinds.ordinals hevaluate (fun _ => rfl)
    (countedFromLiterals_of_isSome schema hliterals)
    fun value hvalue => (hholds value hvalue).bounds hbits
  have hwritten := congrArg (List.map fun entry : Ident × Int64 =>
    (entry.1, (Ordinal.tokens repr entry.2).integer?)) hordinals
  rw [List.map_map, List.map_map] at hwritten
  rw [hsame]
  refine hwritten.trans (List.map_congr_left fun pair hpair => ?_)
  have hvalue := (List.of_mem_zip (List.mem_filter.mp hpair).1).2
  simp only [Function.comp_apply, Ordinal.integer?_tokens,
    Ordinal.valueIn_ofInt hbits (hholds pair.2 hvalue)]

/-! ### Wide discriminants -/

/-- Discriminants around 2^63 and at the end of the unsigned words. -/
def wideItem : EnumItem :=
  .ofVariants "Mark" [.ofTokens "repr" (TokenStream.word "u64")]
    [.ofTexts "Half" none (some (.literal [] ⟨"0x7FFF_FFFF_FFFF_FFFF", .nowhere⟩)),
      .ofTexts "Middle" (some "1") none,
      .ofTexts "Last" (some "2")
        (some (.group [] (.literal [] ⟨"18446744073709551615u64", .nowhere⟩) .nowhere))]

/-- The declaration that the enumeration is resolved to. -/
def wide : Declaration where
  visibility := .inherited
  repr := .u64
  ident := .ofText "Mark"
  fullName := "Mark"
  wrapper := .ofText "Position"
  convertOrdinal := true
  throwOnCastFailure := true
  variants := [.ofText "Half", .ofText "Middle", .ofText "Last"]
  members := [⟨.ofText "Middle", .ofInt (2 ^ 63), [⟨.integer .i32, false, ⟨"1", .nowhere⟩⟩]⟩,
    ⟨.ofText "Last", -1, [⟨.integer .i32, false, ⟨"2", .nowhere⟩⟩]⟩]
  types := some [.integer .i32]

/-- The example is resolved. -/
theorem resolve_wide :
    (resolve (.ofSchema .standard) wideItem "Mark" (.ok ⟨.ofText "Position", true, true⟩)).2 =
      .ok wide := by rfl

/-- The discriminants of the example have the type that its attribute names. -/
theorem represented_wide : wideItem.Represented .u64 := by
  have htypes : wideItem.reprTypes = [.u64] := by rfl
  simp [EnumItem.Represented, htypes]

/-- The discriminants of the example are given by integer literals. -/
theorem integer?_wide : ∀ variant ∈ wideItem.variants, ∀ given ∈ variant.discriminant,
    given.value.integer?.isSome := by decide

/-- The discriminants of the example stand around the border of signed words and at the end of
unsigned ones. -/
theorem discriminants_wide :
    discriminants (Expr.integerOr 0) wideItem.variants 0 = [2 ^ 63 - 1, 2 ^ 63, 2 ^ 64 - 1] := by
  rfl

/-- Its type can represent all of them. -/
theorem holds_wide : ∀ value ∈ discriminants (Expr.integerOr 0) wideItem.variants 0,
    IntegerType.u64.Holds value := by
  rw [discriminants_wide]
  simp [IntegerType.Holds, IntegerType.isUnsigned, IntegerType.bits]

/-- The discriminants 2^63, which is reached by counting, and 2^64 - 1 are written in full. -/
theorem ordinals_of_wide :
    ((resolve (.ofSchema .standard) wideItem "Mark" (.ok ⟨.ofText "Position", true, true⟩)).2 =
        .ok wide ∧
      wideItem.Represented .u64 ∧ IntegerType.u64.bits ≤ 64 ∧ ReadsIntegers (Expr.integerOr 0) ∧
      discriminants (Expr.integerOr 0) wideItem.variants 0 = [2 ^ 63 - 1, 2 ^ 63, 2 ^ 64 - 1]) ∧
      (wide.members.map fun member =>
          (member.ident, (Ordinal.tokens wide.repr member.ordinal).integer?)) =
        [(.ofText "Middle", some (2 ^ 63)), (.ofText "Last", some (2 ^ 64 - 1))] := by
  have hbits : IntegerType.u64.bits ≤ 64 := by decide
  have hevaluate := readsIntegers_integerOr 0
  refine ⟨⟨resolve_wide, represented_wide, hbits, hevaluate, discriminants_wide⟩, ?_⟩
  exact (ordinals_of_resolve resolve_wide represented_wide hbits hevaluate integer?_wide
    holds_wide).trans (by rfl)

end Declaration

end ValuedEnum
