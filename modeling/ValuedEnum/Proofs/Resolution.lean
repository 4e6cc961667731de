import ValuedEnum.Declaration

/-!
# What a resolution finds

A declaration is found by one pass over the variants. `Resolution.Finds` follows that pass variant
by variant, so that a fact about all members is an induction on it. This file proves that every
declaration comes from such a pass, and that its members are some of its variants, in their order.
-/

namespace ValuedEnum

namespace Resolution

/-- A variant counts as untagged when the host reads no values from it. The host may still give it
an ordinal. -/
theorem step_eq_untagged_iff {host : Host} {variant : Variant} {preset ordinal : Int64} :
    step host variant preset = .untagged ordinal ↔
      variant.fields = none ∧ ∃ given, host.initializer variant = .ok given ∧
        host.variantValues variant = .ok none ∧ ordinal = given.getD preset := by
  unfold step
  grind

/-- A variant becomes a member with the values that the host reads from it. -/
theorem step_eq_member_iff {host : Host} {variant : Variant} {preset : Int64} {member : Member} :
    step host variant preset = .member member ↔
      variant.fields = none ∧ ∃ given values, host.initializer variant = .ok given ∧
        host.variantValues variant = .ok (some (.ok values)) ∧
        member = ⟨variant.ident, given.getD preset, values⟩ := by
  unfold step
  grind

/-- The members among some variants, of which the first one has `preset` as its ordinal unless the
host gives it another one. -/
inductive Finds (host : Host) : List Variant → (preset : Int64) → List Member → Prop
  | nil {preset : Int64} : Finds host [] preset []
  | untagged {variant : Variant} {rest : List Variant} {preset ordinal : Int64}
      {members : List Member} (hstep : step host variant preset = .untagged ordinal)
      (hrest : Finds host rest (ordinal + 1) members) : Finds host (variant :: rest) preset members
  | member {variant : Variant} {rest : List Variant} {preset : Int64} {member : Member}
      {members : List Member} (hstep : step host variant preset = .member member)
      (hrest : Finds host rest (member.ordinal + 1) members) :
      Finds host (variant :: rest) preset (member :: members)

/-- A resolution without a fault finds exactly the members that the relation describes. -/
theorem finds_of_ofVariants {host : Host} {variants : List Variant} {preset : Int64}
    {members : List Member} (h : ofVariants host variants preset = ⟨members, none⟩) :
    Finds host variants preset members := by
  induction variants generalizing preset members with
  | nil =>
    simp only [ofVariants, Resolution.mk.injEq, and_true] at h
    subst h
    exact .nil
  | cons variant rest ih =>
    simp only [ofVariants] at h
    cases hstep : step host variant preset with
    | fault fault => simp [hstep, stopped] at h
    | untagged ordinal =>
      simp only [hstep] at h
      exact .untagged hstep (ih h)
    | member member =>
      simp only [hstep, cons, Resolution.mk.injEq] at h
      obtain ⟨rfl, hfault⟩ := h
      refine .member hstep (ih ?_)
      cases hrest : ofVariants host rest (member.ordinal + 1) with
      | mk found fault =>
        simp only [hrest] at hfault
        rw [hfault]

/-- The members are named after some of the variants, in their order. -/
theorem Finds.ident_sublist {host : Host} {variants : List Variant} {preset : Int64}
    {members : List Member} (h : Finds host variants preset members) :
    (members.map Member.ident).Sublist (variants.map Variant.ident) := by
  induction h with
  | nil => exact .slnil
  | untagged hstep hrest ih => exact ih.cons _
  | member hstep hrest ih =>
    obtain ⟨_, given, values, _, _, rfl⟩ := step_eq_member_iff.mp hstep
    exact ih.cons_cons _

/-- The values of every member are what the host reads from a variant. -/
theorem Finds.values_read {host : Host} {variants : List Variant} {preset : Int64}
    {members : List Member} (h : Finds host variants preset members) :
    ∀ member ∈ members, ∃ variant ∈ variants,
      host.variantValues variant = .ok (some (.ok member.values)) := by
  induction h with
  | nil => simp
  | untagged hstep hrest ih =>
    intro member hmember
    obtain ⟨variant, hvariant, hvalues⟩ := ih member hmember
    exact ⟨variant, List.mem_cons_of_mem _ hvariant, hvalues⟩
  | member hstep hrest ih =>
    intro member hmember
    rcases List.mem_cons.mp hmember with rfl | hmember
    · obtain ⟨_, given, values, _, hvalues, rfl⟩ := step_eq_member_iff.mp hstep
      exact ⟨_, List.mem_cons_self, hvalues⟩
    · obtain ⟨variant, hvariant, hvalues⟩ := ih member hmember
      exact ⟨variant, List.mem_cons_of_mem _ hvariant, hvalues⟩

end Resolution

namespace Declaration

variable {host : Host} {item : EnumItem} {fullName : String}
  {options : Except Problem WrapperOptions} {declaration : Declaration}

/-- Every declaration is made of sound options, a representation, and the members of a resolution
that met no fault. -/
theorem resolve_eq_ok (h : (resolve host item fullName options).2 = .ok declaration) :
    ∃ wrapper repr members, options = .ok wrapper ∧ item.variants ≠ [] ∧
      representation item.attributes = .ok repr ∧
      Resolution.Finds host item.variants 0 members ∧
      declaration = ofResolution item fullName wrapper repr members := by
  unfold resolve at h
  cases options with
  | error problem => simp at h
  | ok wrapper =>
    by_cases hempty : item.variants = []
    · simp [hempty] at h
    · cases hrepr : representation item.attributes with
      | error problem => simp [hempty, hrepr] at h
      | ok repr =>
        cases hresolution : Resolution.ofVariants host item.variants 0 with
        | mk members fault =>
          cases fault with
          | some fault => simp [hempty, hrepr, hresolution] at h
          | none =>
            refine ⟨wrapper, repr, members, rfl, hempty, rfl,
              Resolution.finds_of_ofVariants hresolution, ?_⟩
            simpa [hempty, hrepr, hresolution] using h.symm

/-- The types of a declaration are the ones that its members have in common. -/
theorem types_of_resolve (h : (resolve host item fullName options).2 = .ok declaration) :
    declaration.types = commonTypes? declaration.members := by
  obtain ⟨wrapper, repr, members, _, _, _, _, rfl⟩ := resolve_eq_ok h
  rfl

/-- A declaration has all variants of its enumeration. -/
theorem variants_of_resolve (h : (resolve host item fullName options).2 = .ok declaration) :
    declaration.variants = item.variants.map Variant.ident := by
  obtain ⟨wrapper, repr, members, _, _, _, _, rfl⟩ := resolve_eq_ok h
  rfl

/-- The members of a declaration are some of its variants, in their order. -/
theorem ident_sublist_of_resolve (h : (resolve host item fullName options).2 = .ok declaration) :
    (declaration.members.map Member.ident).Sublist declaration.variants := by
  obtain ⟨wrapper, repr, members, _, _, _, hfinds, rfl⟩ := resolve_eq_ok h
  exact hfinds.ident_sublist

/-- The values of a declaration's members are what the host reads from variants. -/
theorem values_of_resolve (h : (resolve host item fullName options).2 = .ok declaration) :
    ∀ member ∈ declaration.members, ∃ variant ∈ item.variants,
      host.variantValues variant = .ok (some (.ok member.values)) := by
  obtain ⟨wrapper, repr, members, _, _, _, hfinds, rfl⟩ := resolve_eq_ok h
  exact hfinds.values_read

end Declaration

/-! ### Small enumerations -/

/-- A word without a position. -/
def Ident.ofText (text : String) : Ident := ⟨text, .nowhere⟩

/-- An attribute with arguments between parentheses. -/
def Attribute.ofTokens (name : String) (content : TokenStream) : Attribute :=
  ⟨.nowhere, .nowhere, ⟨none, .ofText name, []⟩, .list .parenthesis content .nowhere⟩

/-- A variant with an integer literal as its value, or without one, and with an expression for its
discriminant, or without one. -/
def Variant.ofTexts (text : String) (value : Option String) (given : Option Expr) : Variant where
  attributes := value.toList.map fun value => .ofTokens "value" [.literal value .nowhere]
  ident := .ofText text
  fields := none
  discriminant := given.map fun given => ⟨.nowhere, given⟩

/-- An enumeration with some attributes and variants. -/
def EnumItem.ofVariants (text : String) (attributes : List Attribute) (variants : List Variant) :
    EnumItem :=
  ⟨attributes, .inherited, .ofText text, [], [], .nowhere, variants, false⟩

end ValuedEnum
