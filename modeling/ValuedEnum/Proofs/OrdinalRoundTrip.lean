import ValuedEnum.Proofs.Conversions
import ValuedEnum.Proofs.Discriminant

/-!
# Round trips through ordinals

A member comes back from its ordinal as the first member with the same ordinal. The ordinals of
members are different if they are counted from integer literals, because discriminants are; an
expression that is no literal is not evaluated, and members behind it may share an ordinal.
-/

namespace ValuedEnum

/-- Literals of ordinals are equal exactly if they stand for the same integer. -/
def Interpretation.ReadsOrdinals {α : Type} (meaning : Interpretation α) (repr : IntegerType) :
    Prop :=
  ∀ first second : Int64,
    meaning.same .ordinal (meaning.denote .ordinal (Ordinal.tokens repr first))
        (meaning.denote .ordinal (Ordinal.tokens repr second)) = true ↔
      (Ordinal.tokens repr first).integer? = (Ordinal.tokens repr second).integer?

/-- Integer literals have different values if they stand for different integers. -/
theorem Interpretation.readsOrdinals_integers (presetVariant : String) (repr : IntegerType) :
    (integers presetVariant).ReadsOrdinals repr := by
  intro first second
  simp [integers, Ordinal.integer?_tokens]

namespace Ordinal

/-- Different ordinals are written as different integers. -/
theorem integer?_tokens_inj {repr : IntegerType} {first second : Int64} :
    (tokens repr first).integer? = (tokens repr second).integer? ↔ first = second := by
  rw [integer?_tokens, integer?_tokens, Option.some.injEq]
  exact ⟨valueIn_injective repr, congrArg _⟩

/-- Integers of one type are different words. -/
theorem ofInt_injective {repr : IntegerType} {first second : Int} (hbits : repr.bits ≤ 64)
    (hfirst : repr.Holds first) (hsecond : repr.Holds second)
    (h : Int64.ofInt first = Int64.ofInt second) : first = second := by
  rw [← valueIn_ofInt hbits hfirst, ← valueIn_ofInt hbits hsecond, h]

end Ordinal

namespace Declaration

variable {α : Type} {declaration : Declaration} {meaning : Interpretation α}

/-- The first member with an ordinal. -/
def memberAt? (declaration : Declaration) (ordinal : Int64) : Option Member :=
  declaration.members.find? fun member => member.ordinal = ordinal

/-- A member comes back from its ordinal as the first member with the same ordinal. -/
theorem Readable.enter?_ordinal (hreadable : declaration.Readable)
    (hordinals : meaning.ReadsOrdinals declaration.repr) (hslot : .ordinal ∈ declaration.slots)
    {member : Member} (hmember : member ∈ declaration.members) :
    ∃ value first, declaration.leave? meaning .ordinal ⟨member.ident.text⟩ = some (.ok value) ∧
      declaration.memberAt? member.ordinal = some first ∧
      declaration.enter? meaning .ordinal value = some (.ok ⟨first.ident.text⟩) := by
  have hleave : declaration.leave? meaning .ordinal ⟨member.ident.text⟩ =
      some (.ok (meaning.ofEntry declaration .ordinal (.ordinal member.ordinal))) := by
    rw [hreadable.leave?_eq meaning hslot, hreadable.memberNamed?_eq hmember]
    rfl
  have hequal : declaration.firstEqual? meaning .ordinal
        (meaning.ofEntry declaration .ordinal (.ordinal member.ordinal)) =
      declaration.memberAt? member.ordinal := by
    refine List.find?_congr fun other _ => ?_
    rw [Bool.eq_iff_iff, decide_eq_true_iff, ← Ordinal.integer?_tokens_inj]
    exact hordinals other.ordinal member.ordinal
  obtain ⟨first, hfirst⟩ : ∃ first, declaration.memberAt? member.ordinal = some first :=
    Option.isSome_iff_exists.mp (List.find?_isSome.mpr ⟨member, hmember, by simp⟩)
  refine ⟨_, first, hleave, hfirst, ?_⟩
  rw [hreadable.enter?_eq meaning hslot, hequal, hfirst]

/-- Counted discriminants that are different are the different ordinals of members. -/
theorem nodup_ordinals {schema : Schema} {item : EnumItem} {fullName : String}
    {options : Except Problem WrapperOptions} {repr : IntegerType} {evaluate : Expr → Int}
    (hresolve : (resolve (.ofSchema schema) item fullName options).2 = .ok declaration)
    (hbits : repr.bits ≤ 64) (hevaluate : ReadsIntegers evaluate)
    (hholds : ∀ value ∈ discriminants evaluate item.variants 0, repr.Holds value)
    (hnodup : (discriminants evaluate item.variants 0).Nodup)
    (hcounted : CountedFromLiterals schema true item.variants) :
    (declaration.members.map Member.ordinal).Nodup := by
  obtain ⟨wrapper, found, members, _, _, _, hfinds, rfl⟩ := resolve_eq_ok hresolve
  have hordinals := congrArg (List.map Prod.snd) <|
    hfinds.ordinals hevaluate (fun _ => rfl) hcounted
      fun value hvalue => (hholds value hvalue).bounds hbits
  rw [List.map_map, List.map_map] at hordinals
  have hsublist : (((item.variants.zip (discriminants evaluate item.variants 0)).filter fun pair =>
      schema.tags pair.1).map Prod.snd).Sublist (discriminants evaluate item.variants 0) := by
    have hzip := List.map_snd_zip (length_discriminants evaluate item.variants 0).le
    refine .trans (List.filter_sublist.map Prod.snd) ?_
    rw [hzip]
  have hwords : (((item.variants.zip (discriminants evaluate item.variants 0)).filter fun pair =>
      schema.tags pair.1).map Prod.snd |>.map Int64.ofInt).Nodup := by
    refine List.Nodup.map_on (fun first hfirst second hsecond heq => ?_) (hnodup.sublist hsublist)
    exact Ordinal.ofInt_injective hbits (hholds first (hsublist.subset hfirst))
      (hholds second (hsublist.subset hsecond)) heq
  rw [List.map_map] at hwords
  exact hordinals ▸ hwords

/-- A member comes back from its ordinal as the first member with the same ordinal, so as itself if
no member in front of it has the same one. If the ordinals of all members are counted from integer
literals, no two members share one. -/
theorem ordinal_round_trip {schema : Schema} {item : EnumItem} {fullName : String}
    {options : Except Problem WrapperOptions} {repr : IntegerType} {evaluate : Expr → Int}
    (hresolve : (resolve (.ofSchema schema) item fullName options).2 = .ok declaration)
    (hnames : (item.variants.map fun variant => variant.ident.text).Nodup)
    (hrepr : item.Represented repr) (hbits : repr.bits ≤ 64) (hevaluate : ReadsIntegers evaluate)
    (hholds : ∀ value ∈ discriminants evaluate item.variants 0, repr.Holds value)
    (hnodup : (discriminants evaluate item.variants 0).Nodup)
    (hordinals : meaning.ReadsOrdinals repr) (hconvert : declaration.convertOrdinal = true)
    (hvalues : ∀ index, .value index (.integer repr) ∉ declaration.slots) :
    (∀ member ∈ declaration.members, ∃ value first,
      declaration.leave? meaning .ordinal ⟨member.ident.text⟩ = some (.ok value) ∧
      declaration.memberAt? member.ordinal = some first ∧
      declaration.enter? meaning .ordinal value = some (.ok ⟨first.ident.text⟩)) ∧
    (CountedFromLiterals schema true item.variants →
      (declaration.members.map Member.ordinal).Nodup ∧
      ∀ member ∈ declaration.members, ∃ value,
        declaration.leave? meaning .ordinal ⟨member.ident.text⟩ = some (.ok value) ∧
        declaration.enter? meaning .ordinal value = some (.ok ⟨member.ident.text⟩)) := by
  have hreadable := Readable.of_resolve hresolve (Host.readsLiterals_ofSchema schema) hnames
  obtain rfl := repr_of_resolve hresolve hrepr
  have hslot := ordinal_mem_slots hconvert hvalues
  refine ⟨fun member hmember => hreadable.enter?_ordinal hordinals hslot hmember,
    fun hcounted => ?_⟩
  -- Discriminants that are counted from literals are the ordinals as words. At most 64 bits are
  -- told apart by words, so different discriminants are different ordinals.
  have hdistinct := nodup_ordinals hresolve hbits hevaluate hholds hnodup hcounted
  refine ⟨hdistinct, fun member hmember => ?_⟩
  obtain ⟨value, first, hleave, hfirst, henter⟩ :=
    hreadable.enter?_ordinal hordinals hslot hmember
  have hsame : first = member :=
    List.inj_on_of_nodup_map hdistinct (List.mem_of_find?_eq_some hfirst) hmember
      (by simpa using List.find?_some hfirst)
  exact ⟨value, hleave, hsame ▸ henter⟩

/-- The ordinals of wide discriminants are different, and all members come back. -/
theorem ordinal_round_trip_of_wide :
    ((resolve (.ofSchema .standard) wideItem "Mark" (.ok ⟨.ofText "Position", true, true⟩)).2 =
        .ok wide ∧
      (wideItem.variants.map fun variant => variant.ident.text).Nodup ∧
      wideItem.Represented .u64 ∧
      ReadsIntegers (Expr.integerOr 0) ∧
      (discriminants (Expr.integerOr 0) wideItem.variants 0).Nodup ∧
      (Interpretation.integers "Half").ReadsOrdinals .u64 ∧
      ∀ index, .value index (.integer .u64) ∉ wide.slots) ∧
      (wide.members.map Member.ordinal).Nodup ∧
      ∀ member ∈ wide.members, ∃ value,
        wide.leave? (.integers "Half") .ordinal ⟨member.ident.text⟩ = some (.ok value) ∧
        wide.enter? (.integers "Half") .ordinal value = some (.ok ⟨member.ident.text⟩) := by
  have hnames : (wideItem.variants.map fun variant => variant.ident.text).Nodup := by decide
  have hevaluate := readsIntegers_integerOr 0
  have hnodup : (discriminants (Expr.integerOr 0) wideItem.variants 0).Nodup := by
    rw [discriminants_wide]
    decide
  have hordinals := Interpretation.readsOrdinals_integers "Half" .u64
  have hvalues : ∀ index, .value index (.integer .u64) ∉ wide.slots := by
    have hslots : wide.slots = [.ordinal, .enumeration, .value 0 (.integer .i32)] := by decide
    simp [hslots]
  refine ⟨⟨resolve_wide, hnames, represented_wide, hevaluate, hnodup, hordinals, hvalues⟩, ?_⟩
  exact (ordinal_round_trip resolve_wide hnames represented_wide (by decide) hevaluate holds_wide
    hnodup hordinals rfl hvalues).2 (countedFromLiterals_of_isSome .standard integer?_wide)

/-! ### An expression that is no literal -/

/-- The tokens of `1 << 3`. -/
def shift : TokenStream :=
  [.literal "1" .nowhere, .punct '<' .joint .nowhere, .punct '<' .alone .nowhere,
    .literal "3" .nowhere]

/-- A variant with a discriminant that is no literal, and another one with zero. -/
def shiftedItem : EnumItem :=
  .ofVariants "Bit" [] [.ofTexts "High" (some "1u8") (some (.other .compound shift)),
    .ofTexts "None" (some "2u8") (some (.literal [] ⟨"0", .nowhere⟩))]

/-- The declaration that the enumeration is resolved to. -/
def shifted : Declaration where
  visibility := .inherited
  repr := .i32
  ident := .ofText "Bit"
  fullName := "Bit"
  wrapper := .ofText "Mask"
  convertOrdinal := true
  throwOnCastFailure := true
  variants := [.ofText "High", .ofText "None"]
  members := [⟨.ofText "High", 0, [⟨.integer .u8, false, ⟨"1u8", .nowhere⟩⟩]⟩,
    ⟨.ofText "None", 0, [⟨.integer .u8, false, ⟨"2u8", .nowhere⟩⟩]⟩]
  types := some [.integer .u8]

/-- Members with the discriminants 8 and 0 share the ordinal 0, if the first discriminant is given
by an expression that is no literal; then the second member comes back as the first one. -/
theorem shifted_ordinals_not_nodup :
    Grammar.expr .whole shift = .ok (.other .compound shift) ∧
      (resolve (.ofSchema .standard) shiftedItem "Bit"
          (.ok ⟨.ofText "Mask", true, true⟩)).2 = .ok shifted ∧
      (shiftedItem.variants.map fun variant => variant.ident.text).Nodup ∧
      shiftedItem.Represented .i32 ∧
      ReadsIntegers (Expr.integerOr 8) ∧
      discriminants (Expr.integerOr 8) shiftedItem.variants 0 = [8, 0] ∧
      (Interpretation.integers "None").ReadsOrdinals .i32 ∧
      shifted.convertOrdinal = true ∧
      (∀ index, .value index (.integer .i32) ∉ shifted.slots) ∧
      ¬ (shifted.members.map Member.ordinal).Nodup ∧
      shifted.leave? (.integers "None") .ordinal ⟨"None"⟩ = some (.ok (.literal 0)) ∧
      shifted.enter? (.integers "None") .ordinal (.literal 0) = some (.ok ⟨"High"⟩) := by
  refine ⟨by rfl, by rfl, by decide, ?_, readsIntegers_integerOr 8, by rfl,
    Interpretation.readsOrdinals_integers "None" .i32, rfl, ?_, by decide, by rfl, by rfl⟩
  · have htypes : shiftedItem.reprTypes = [] := by rfl
    simp [EnumItem.Represented, htypes]
  · have hslots : shifted.slots = [.ordinal, .enumeration, .value 0 (.integer .u8)] := by decide
    simp [hslots]

end Declaration

end ValuedEnum
