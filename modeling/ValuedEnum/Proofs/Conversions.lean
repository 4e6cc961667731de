import Mathlib.Data.List.Find
import Mathlib.Data.List.Nodup
import ValuedEnum.Proofs.Emission.Entry
import ValuedEnum.Proofs.Resolution
import ValuedEnum.Proofs.Values

/-!
# The meaning of emitted conversions

A wrapper of a member is converted to the member's own entry, and an input is converted to the
first member with an equal entry. Everything else takes the fallback. The statements are about the
tokens of the emitted implementations, for any interpretation of literals that keeps a few laws.
-/

namespace ValuedEnum

open TokenStream Code

/-! ### What conversions rely on -/

/-- The values that a host answers with are literals that it has read. -/
def Host.ReadsLiterals (host : Host) : Prop :=
  ∀ variant values, host.variantValues variant = .ok (some (.ok values)) →
    ∀ value ∈ values, ∃ expr, Value.ofExpr expr = .ok value

/-- Attributes are read to literals. -/
theorem Host.readsLiterals_ofSchema (schema : Schema) : (ofSchema schema).ReadsLiterals := by
  intro variant values hvalues value hvalue
  simp only [ofSchema, Except.ok.injEq, Option.map_eq_some_iff] at hvalues
  obtain ⟨attr, _, hattr⟩ := hvalues
  unfold attributeValues at hattr
  split at hattr
  · simp only [Except.ok.injEq] at hattr
    simp [← hattr] at hvalue
  · simp at hattr
  · rename_i content span _
    cases hexprs : Grammar.exprs ⟨span.last, .invisible⟩ content with
    | error problem => simp [hexprs, bind, Except.bind] at hattr
    | ok exprs =>
      simp only [hexprs, bind, Except.bind] at hattr
      obtain ⟨expr, _, hexpr⟩ := Value.ofExpr_of_ofExprs hattr value hvalue
      exact ⟨expr, hexpr⟩

namespace Slot

/-- The tokens that are literals of a slot's type. -/
inductive Literal (repr : IntegerType) : Slot → TokenStream → Prop
  | ordinal (ordinal : Int64) : Literal repr .ordinal (Ordinal.tokens repr ordinal)
  | value (index : Nat) {expr : Expr} {value : Value} (hvalue : Value.ofExpr expr = .ok value) :
    Literal repr (.value index value.type) value.pattern

/-- A slot for values stands at the first position of its type. -/
def FirstIn (types : List ValueType) : Slot → Prop
  | .value index type => types[index]? = some type ∧ ∀ earlier < index, types[earlier]? ≠ some type
  | _ => True

end Slot

/-- The laws of an interpretation: the slice of all bytes of a byte string has the value of the byte
string, and equality is an equivalence on the values of literals. -/
structure Interpretation.Lawful {α : Type} (meaning : Interpretation α) (repr : IntegerType) :
    Prop where
  slice (index : Nat) (lit : Lit) (hkind : lit.kind = .byteString) :
    meaning.denote (.value index .byteString)
        (sign "&" ++ lit.tokens ++ bracketed (sign "..")) =
      meaning.denote (.value index .byteString) lit.tokens
  refl {slot : Slot} {tokens : TokenStream} (htokens : slot.Literal repr tokens) :
    meaning.same slot (meaning.denote slot tokens) (meaning.denote slot tokens)
  symm {slot : Slot} {first second : TokenStream} (hfirst : slot.Literal repr first)
    (hsecond : slot.Literal repr second)
    (h : meaning.same slot (meaning.denote slot first) (meaning.denote slot second)) :
    meaning.same slot (meaning.denote slot second) (meaning.denote slot first)
  trans {slot : Slot} {first second third : TokenStream} (hfirst : slot.Literal repr first)
    (hsecond : slot.Literal repr second) (hthird : slot.Literal repr third)
    (h : meaning.same slot (meaning.denote slot first) (meaning.denote slot second))
    (h' : meaning.same slot (meaning.denote slot second) (meaning.denote slot third)) :
    meaning.same slot (meaning.denote slot first) (meaning.denote slot third)

namespace Interpretation

/-- Integer literals with their usual values. -/
def integers (presetVariant : String) : Interpretation Int where
  denote _ tokens := tokens.integer?.getD 0
  same _ first second := first = second
  preset _ := 0
  presetVariant := presetVariant

/-- The usual values of integer literals keep the laws. -/
theorem lawful_integers (presetVariant : String) (repr : IntegerType) :
    (integers presetVariant).Lawful repr where
  slice index lit hkind := by
    have hlit : lit.tokens = [.literal lit.text lit.span] := by
      simp [Lit.tokens, Lit.token, hkind]
    have hnone : integer?.magnitude? lit.text = none := by
      have hkind : LitKind.ofText lit.text.toList = .byteString := hkind
      simp [integer?.magnitude?, hkind]
    simp [integers, hlit, integer?, hnone, sign, signs]
  refl _ := by simp [integers]
  symm _ _ h := by simpa [integers, eq_comm] using h
  trans _ _ _ h h' := by
    simp only [integers, decide_eq_true_eq] at h h' ⊢
    exact h.trans h'

end Interpretation

namespace Declaration

variable {α : Type}

/-- What holds of the members of every declaration that is resolved. -/
structure Resolved (declaration : Declaration) : Prop where
  types : declaration.types = commonTypes? declaration.members
  idents : (declaration.members.map Member.ident).Sublist declaration.variants

/-- A declaration whose variants have different names, and whose members have values that were
read. -/
structure Readable (declaration : Declaration) : Prop extends declaration.Resolved where
  names : (declaration.variants.map Ident.text).Nodup
  literals : ∀ member ∈ declaration.members, ∀ value ∈ member.values,
    ∃ expr, Value.ofExpr expr = .ok value

section

variable {host : Host} {item : EnumItem} {fullName : String}
  {options : Except Problem WrapperOptions} {declaration : Declaration}

/-- The members of a declaration that is resolved have these properties. -/
theorem Resolved.of_resolve (hresolve : (resolve host item fullName options).2 = .ok declaration) :
    declaration.Resolved where
  types := types_of_resolve hresolve
  idents := ident_sublist_of_resolve hresolve

/-- A declaration is readable if its host reads literals and its variants have different names. -/
theorem Readable.of_resolve (hresolve : (resolve host item fullName options).2 = .ok declaration)
    (hhost : host.ReadsLiterals)
    (hnames : (item.variants.map fun variant => variant.ident.text).Nodup) :
    declaration.Readable where
  toResolved := .of_resolve hresolve
  names := by
    rw [variants_of_resolve hresolve, List.map_map]
    exact hnames
  literals member hmember value hvalue := by
    obtain ⟨variant, _, hvalues⟩ := values_of_resolve hresolve member hmember
    exact hhost variant member.values hvalues value hvalue

end

/-! ### The arms of members -/

variable (declaration : Declaration) (meaning : Interpretation α)

/-- What a conversion returns when no member fits: the input, or the default. -/
def fallback {ε τ : Type} (input : ε) (preset : τ) : Except ε τ :=
  if declaration.throwOnCastFailure then .error input else .ok preset

/-- Whether a member's entry in a slot is equal to a value. -/
def holds (slot : Slot) (value : SlotValue α) (member : Member) : Bool :=
  (member.entry? slot).any fun entry =>
    meaning.equal slot (meaning.ofEntry declaration slot entry) value

/-- The member with a name. -/
def memberNamed? (name : String) : Option Member :=
  declaration.members.find? fun member => member.ident.text = name

/-- The first member with an entry that is equal to a value. -/
def firstEqual? (slot : Slot) (value : SlotValue α) : Option Member :=
  declaration.members.find? (declaration.holds meaning slot value)

variable {declaration} {slot : Slot}

/-- The entry of a member fits the slot. -/
theorem Resolved.fits (hresolved : declaration.Resolved) (hslot : slot ∈ declaration.slots)
    {member : Member} (hmember : member ∈ declaration.members) :
    ∃ entry, member.entry? slot = some entry ∧ entry.Fits slot := by
  obtain ⟨entry, hentry, hshape⟩ := entry?_of_mem_slots hresolved.types hslot hmember
  refine ⟨entry, hentry, ?_⟩
  cases slot with
  | ordinal => simp [hshape, Entry.Fits]
  | enumeration => simp [hshape, Entry.Fits]
  | value index type =>
    obtain ⟨value, rfl, _, htype⟩ := hshape
    exact htype

/-- Members with one name are one member. -/
theorem Readable.eq_of_name (hreadable : declaration.Readable) {first second : Member}
    (hfirst : first ∈ declaration.members) (hsecond : second ∈ declaration.members)
    (hname : first.ident.text = second.ident.text) : first = second := by
  have hsublist := hreadable.idents.map Ident.text
  rw [List.map_map] at hsublist
  exact List.inj_on_of_nodup_map (hreadable.names.sublist hsublist) hfirst hsecond hname

/-- Every wildcard accepts. -/
theorem accepts_wildcard (enumeration : String) (slot : Slot) (input : SlotValue α) :
    WrittenArm.accepts meaning enumeration slot (word "_") input = true := by
  have hwildcard : WrittenArm.isWildcard (word "_") = true := rfl
  simp [WrittenArm.accepts, hwildcard]

/-- The first arm that accepts an input is the arm of the first member with an equal entry. -/
theorem Resolved.find?_incoming (hresolved : declaration.Resolved)
    (hslot : slot ∈ declaration.slots) (input : SlotValue α) :
    ((declaration.conversion slot).incoming.find? fun arm =>
        WrittenArm.accepts meaning declaration.ident.text slot (declaration.armPattern arm) input) =
      (declaration.firstEqual? meaning slot input).bind fun member =>
        (member.entry? slot).map fun entry => ⟨entry, guards slot, .constant member.ident⟩ := by
  rw [conversion, List.find?_filterMap, firstEqual?]
  congr 1
  refine List.find?_congr fun member hmember => ?_
  obtain ⟨entry, hentry, hfits⟩ := hresolved.fits hslot hmember
  rw [holds, hentry]
  exact declaration.accepts_armPattern meaning ⟨entry, guards slot, _⟩ hfits input

/-- An input is converted to the first member with an equal entry, and takes the fallback if there
is none. -/
theorem Resolved.enter?_eq (hresolved : declaration.Resolved) (hslot : slot ∈ declaration.slots)
    (input : SlotValue α) :
    declaration.enter? meaning slot input =
      match declaration.firstEqual? meaning slot input with
      | some member => some (.ok ⟨member.ident.text⟩)
      | none => some (declaration.fallback input ⟨meaning.presetVariant⟩) := by
  have hwildcard := accepts_wildcard meaning declaration.ident.text slot input
  simp only [enter?, entering?_eq, Bool.false_eq_true, if_false]
  rw [declaration.run?_arms
    (WrittenArm.accepts meaning declaration.ident.text slot · input) hwildcard,
    hresolved.find?_incoming meaning hslot]
  cases hfirst : declaration.firstEqual? meaning slot input with
  | none =>
    cases hthrow : declaration.throwOnCastFailure <;>
      simp [fallback, presetWrapper?_eq, hthrow]
  | some member =>
    have hmember : member ∈ declaration.members := List.mem_of_find?_eq_some hfirst
    obtain ⟨entry, hentry, _⟩ := hresolved.fits hslot hmember
    have hmemberOf : memberOf? "Self" (declaration.resultTokens (.constant member.ident)) =
        some member.ident.text := rfl
    have hread : (memberOf? "Self" (declaration.resultTokens (.constant member.ident))).bind
        (declaration.constant? meaning) = some ⟨member.ident.text⟩ := by
      rw [hmemberOf, Option.bind_some, constant?_eq, if_pos ⟨member, hmember, rfl⟩]
    simp only [Option.bind_some, hentry, Option.map_some, hread]

/-- A member is found by its name. -/
theorem Readable.memberNamed?_eq (hreadable : declaration.Readable) {member : Member}
    (hmember : member ∈ declaration.members) :
    declaration.memberNamed? member.ident.text = some member := by
  unfold memberNamed?
  cases hfind : declaration.members.find? fun other => other.ident.text = member.ident.text with
  | none => simpa using List.find?_eq_none.mp hfind member hmember
  | some other =>
    have hname : other.ident.text = member.ident.text := by simpa using List.find?_some hfind
    rw [hreadable.eq_of_name (List.mem_of_find?_eq_some hfind) hmember hname]

/-- The wrapper of a member is equal to its copy. -/
theorem Resolved.clone?_member (hresolved : declaration.Resolved) {member : Member}
    (hmember : member ∈ declaration.members) {wrapper : Wrapped}
    (hname : member.ident.text = wrapper.variant) :
    declaration.clone? meaning wrapper = some wrapper := by
  have hvariant := hresolved.idents.subset (List.mem_map_of_mem hmember)
  rw [clone?_eq, if_pos (hname ▸ List.mem_map_of_mem hvariant)]

/-- The arm that a wrapper takes is the arm of the member that it holds. -/
theorem Resolved.find?_outgoing (hresolved : declaration.Resolved)
    (hslot : slot ∈ declaration.slots) (wrapper : Wrapped) :
    ((declaration.conversion slot).outgoing.find? fun arm =>
        WrittenArm.accepts meaning declaration.ident.text .enumeration
          (declaration.armPattern arm) (.variant wrapper.variant)) =
      (declaration.memberNamed? wrapper.variant).bind fun member =>
        (member.entry? slot).map fun entry => ⟨.variant member.ident, false, .entry entry⟩ := by
  rw [conversion, List.find?_filterMap, memberNamed?]
  congr 1
  refine List.find?_congr fun member hmember => ?_
  obtain ⟨entry, hentry, _⟩ := hresolved.fits hslot hmember
  simp [hentry, armPattern, patternTokens, entryTokens]

/-- A wrapper is converted to what its member's entry is written as; without a member it takes the
fallback. -/
theorem Resolved.leave?_eq (hresolved : declaration.Resolved) (hslot : slot ∈ declaration.slots)
    (wrapper : Wrapped) :
    declaration.leave? meaning slot wrapper =
      match declaration.memberNamed? wrapper.variant with
      | some member =>
        ((member.entry? slot).bind fun entry =>
          meaning.value? declaration.ident.text slot (declaration.entryTokens entry)).map .ok
      | none => some (declaration.fallback wrapper (meaning.presetOf slot)) := by
  have hwildcard :=
    accepts_wildcard meaning declaration.ident.text .enumeration (.variant wrapper.variant)
  simp only [leave?, leaving?_eq, if_true]
  rw [declaration.run?_arms (WrittenArm.accepts meaning declaration.ident.text .enumeration ·
    (.variant wrapper.variant)) hwildcard, hresolved.find?_outgoing meaning hslot]
  cases hnamed : declaration.memberNamed? wrapper.variant with
  | none => cases hthrow : declaration.throwOnCastFailure <;> simp [fallback, hthrow]
  | some member =>
    obtain ⟨entry, hentry, _⟩ := hresolved.fits hslot (List.mem_of_find?_eq_some hnamed)
    simp only [Option.bind_some, hentry, Option.map_some, resultTokens]

/-- As an expression, an entry has a value. -/
theorem exists_value?_entryTokens {entry : Entry} (hfits : entry.Fits slot) :
    ∃ value, meaning.value? declaration.ident.text slot (declaration.entryTokens entry) =
      some value := by
  cases slot with
  | enumeration =>
    cases entry with
    | variant ident => exact ⟨.variant ident.text, by simp [Interpretation.value?, entryTokens]⟩
    | _ => exact hfits.elim
  | _ => exact ⟨_, rfl⟩

/-- As an expression, an entry has the value that it stands for. -/
theorem value?_entryTokens {meaning : Interpretation α} (hmeaning : meaning.Lawful declaration.repr)
    {entry : Entry} (hfits : entry.Fits slot)
    (hliteral : ∀ value, entry = .value value → ∃ expr, Value.ofExpr expr = .ok value) :
    meaning.value? declaration.ident.text slot (declaration.entryTokens entry) =
      some (meaning.ofEntry declaration slot entry) := by
  rw [← declaration.value?_patternTokens meaning hfits]
  cases entry with
  | value value =>
    cases slot with
    | value index type =>
      simp only [entryTokens, patternTokens, Value.tokens, Interpretation.value?]
      split
      · rename_i htype
        obtain ⟨expr, hexpr⟩ := hliteral value rfl
        obtain ⟨hkind, hsign⟩ := Value.kind_of_byteString hexpr htype
        have hslice := hmeaning.slice index value.lit hkind
        obtain rfl : type = .byteString := hfits.symm.trans htype
        simp only [Value.pattern, hsign, Bool.false_eq_true, if_false, List.nil_append, hslice]
      · rfl
    | _ => exact hfits.elim
  | _ => rfl

/-- The values of a member's entry are literals that were read. -/
theorem Readable.ofExpr_of_entry? (hreadable : declaration.Readable) {member : Member}
    (hmember : member ∈ declaration.members) {value : Value}
    (hentry : member.entry? slot = some (.value value)) :
    ∃ expr, Value.ofExpr expr = .ok value := by
  cases slot with
  | value index type =>
    simp only [Member.entry?, Option.map_eq_some_iff, Entry.value.injEq, exists_eq_right] at hentry
    exact hreadable.literals member hmember value (List.mem_of_getElem? hentry)
  | _ => simp [Member.entry?] at hentry

/-- Every member is converted to its own entry. -/
theorem Readable.leave?_member (hreadable : declaration.Readable) {meaning : Interpretation α}
    (hmeaning : meaning.Lawful declaration.repr)
    (hslot : slot ∈ declaration.slots) {member : Member} (hmember : member ∈ declaration.members) :
    ∃ entry, member.entry? slot = some entry ∧
      declaration.leave? meaning slot ⟨member.ident.text⟩ =
        some (.ok (meaning.ofEntry declaration slot entry)) := by
  obtain ⟨entry, hentry, hfits⟩ := hreadable.fits hslot hmember
  refine ⟨entry, hentry, ?_⟩
  have hliteral (value : Value) (hvalue : entry = .value value) :
      ∃ expr, Value.ofExpr expr = .ok value :=
    hreadable.ofExpr_of_entry? hmember (hvalue ▸ hentry)
  have hvalue := value?_entryTokens hmeaning hfits hliteral
  simp only [hreadable.leave?_eq meaning hslot, hreadable.memberNamed?_eq hmember, hentry,
    Option.bind_some, hvalue, Option.map_some]

end Declaration

end ValuedEnum
