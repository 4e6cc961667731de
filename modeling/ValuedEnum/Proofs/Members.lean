import Mathlib.Data.List.Forall2
import ValuedEnum.Proofs.Resolution

/-!
# Which variants are members

The members of a declaration are the variants that the host reads values from, in their order. The
ordinal of each one is counted from the last variant up to it that is given an ordinal, or from the
start, over all variants in between. So it does not depend on which of the variants are members.
-/

namespace ValuedEnum

namespace Host

/-- The ordinal that the host gives to the variant at a position, if it gives one. -/
def given? (host : Host) (variants : List Variant) (position : Nat) : Option Int64 :=
  variants[position]?.bind fun variant => (host.initializer variant).toOption.join

/-- Whether the host answers with values for a variant. -/
def tags (host : Host) (variant : Variant) : Bool :=
  match host.variantValues variant with
  | .ok (some _) => true
  | _ => false

/-- The variants that the host answers with values for, with their positions. -/
def tagged (host : Host) (variants : List Variant) : List (Variant × Nat) :=
  variants.zipIdx.filter fun entry => host.tags entry.1

/-- The ordinal at a position is a word that is counted from the last position up to there at which
one is given, or from the start. -/
inductive OrdinalAt (host : Host) (variants : List Variant) (position : Nat) : Int64 → Prop
  | given {origin : Nat} {ordinal : Int64} (hle : origin ≤ position)
      (hgiven : host.given? variants origin = some ordinal)
      (hlast : ∀ later, origin < later → later ≤ position → host.given? variants later = none) :
      OrdinalAt host variants position (Int64.ofInt (ordinal.toInt + (position - origin)))
  | counted (hnone : ∀ earlier ≤ position, host.given? variants earlier = none) :
      OrdinalAt host variants position (Int64.ofInt position)

variable {host other : Host} {variants : List Variant} {position : Nat}

/-- Only one position is the last one at which an ordinal is given. -/
theorem OrdinalAt.unique {first second : Int64} (hfirst : host.OrdinalAt variants position first)
    (hsecond : host.OrdinalAt variants position second) : first = second := by
  cases hfirst with
  | @given origin ordinal hle hgiven hlast =>
    cases hsecond with
    | @given another last hle' hgiven' hlast' =>
      have hsame : origin = another := by
        rcases Nat.lt_trichotomy origin another with hlt | heq | hgt
        · simp [hlast another hlt hle'] at hgiven'
        · exact heq
        · simp [hlast' origin hgt hle] at hgiven
      subst hsame
      obtain rfl : ordinal = last := Option.some.inj (hgiven.symm.trans hgiven')
      rfl
    | counted hnone => simp [hnone origin hle] at hgiven
  | counted hnone =>
    cases hsecond with
    | @given another last hle' hgiven' hlast' => simp [hnone another hle'] at hgiven'
    | counted => rfl

/-- Ordinals depend on nothing but those that are given. -/
theorem OrdinalAt.congr (hsame : host.given? variants = other.given? variants) {ordinal : Int64}
    (h : host.OrdinalAt variants position ordinal) :
    other.OrdinalAt variants position ordinal := by
  cases h with
  | given hle hgiven hlast =>
    exact .given hle (hsame ▸ hgiven) fun later hlater hbefore => hsame ▸ hlast later hlater hbefore
  | counted hnone => exact .counted fun earlier hearlier => hsame ▸ hnone earlier hearlier

/-- Hosts that give the same ordinals give them at the same positions. -/
theorem given?_congr
    (hsame : ∀ variant ∈ variants, other.initializer variant = host.initializer variant) :
    host.given? variants = other.given? variants := by
  funext position
  unfold given?
  cases hvariant : variants[position]? with
  | none => rfl
  | some variant => simp [hsame variant (List.mem_of_getElem? hvariant)]

/-- The ordinal at a position if none is given there. -/
def PresetAt (host : Host) (variants : List Variant) (position : Nat) (preset : Int64) : Prop :=
  host.given? variants position = none → host.OrdinalAt variants position preset

/-- The first variant has the ordinal zero, if it is given none. -/
theorem presetAt_zero : host.PresetAt variants 0 0 := by
  intro hnone
  refine .counted fun earlier hearlier => ?_
  obtain rfl : earlier = 0 := by omega
  exact hnone

/-- An ordinal that is given at a position takes the place of the preset one. -/
theorem PresetAt.ordinalAt {preset : Int64} (h : host.PresetAt variants position preset) :
    host.OrdinalAt variants position ((host.given? variants position).getD preset) := by
  cases hgiven : host.given? variants position with
  | none => exact h hgiven
  | some ordinal =>
    have hhere : host.OrdinalAt variants position
        (Int64.ofInt (ordinal.toInt + (position - position))) :=
      .given (Nat.le_refl position) hgiven fun later hlater hbefore => by omega
    simpa using hhere

/-- The next position counts up, whatever its variant is. -/
theorem OrdinalAt.presetAt_succ {ordinal : Int64} (h : host.OrdinalAt variants position ordinal) :
    host.PresetAt variants (position + 1) (ordinal + 1) := by
  intro hnone
  cases h with
  | @given origin ordinal hle hgiven hlast =>
    have hnext : host.OrdinalAt variants (position + 1)
        (Int64.ofInt (ordinal.toInt + ((position + 1 : Nat) - origin))) := by
      refine .given (by omega) hgiven fun later hlater hbefore => ?_
      rcases Nat.lt_or_eq_of_le hbefore with hlt | rfl
      · exact hlast later hlater (by omega)
      · exact hnone
    have hcount : ordinal.toInt + ((position + 1 : Nat) - origin) =
        ordinal.toInt + (position - origin) + 1 := by omega
    rw [hcount, Int64.ofInt_add] at hnext
    exact hnext
  | counted hbefore =>
    have hnext : host.OrdinalAt variants (position + 1) (Int64.ofInt (position + 1 : Nat)) := by
      refine .counted fun earlier hearlier => ?_
      rcases Nat.lt_or_eq_of_le hearlier with hlt | rfl
      · exact hbefore earlier (by omega)
      · exact hnone
    rw [Int.natCast_succ, Int64.ofInt_add] at hnext
    exact hnext

end Host

/-- The member that a host makes of a variant at a position. -/
structure Member.IsMade (host : Host) (variants : List Variant) (member : Member)
    (entry : Variant × Nat) : Prop where
  ident : member.ident = entry.1.ident
  values : host.variantValues entry.1 = .ok (some (.ok member.values))
  ordinal : host.OrdinalAt variants entry.2 member.ordinal

namespace Resolution

variable {host : Host} {variants : List Variant}

/-- The variants that are left are tagged or not, and the preset ordinal is that of the first one of
them. -/
theorem Finds.made {rest : List Variant} {preset : Int64} {members : List Member}
    (h : Finds host rest preset members) {front : List Variant}
    (hvariants : variants = front ++ rest)
    (hpreset : host.PresetAt variants front.length preset) :
    List.Forall₂ (Member.IsMade host variants) members
        ((rest.zipIdx front.length).filter fun entry => host.tags entry.1) ∧
      ∀ variant ∈ rest, host.tags variant = false → host.variantValues variant = .ok none := by
  -- The front grows by the variants that are done. Its length is the position of the next variant,
  -- and the invariant says which ordinal that one has if it is given none.
  induction h generalizing front with
  | nil => exact ⟨.nil, by simp⟩
  | @untagged variant rest preset ordinal members hstep hrest ih =>
    obtain ⟨_, given, hgiven, hvalues, rfl⟩ := step_eq_untagged_iff.mp hstep
    have hhere : host.given? variants front.length = given := by
      simp [Host.given?, hvariants, hgiven, Except.toOption]
    have htags : host.tags variant = false := by simp [Host.tags, hvalues]
    have hnext := hpreset.ordinalAt.presetAt_succ
    rw [hhere] at hnext
    obtain ⟨hmade, hothers⟩ := @ih (front ++ [variant]) (by simp [hvariants]) (by simpa using hnext)
    refine ⟨?_, List.forall_mem_cons.mpr ⟨fun _ => hvalues, hothers⟩⟩
    simpa [htags] using hmade
  | @member variant rest preset member members hstep hrest ih =>
    obtain ⟨_, given, values, hgiven, hvalues, rfl⟩ := step_eq_member_iff.mp hstep
    have hhere : host.given? variants front.length = given := by
      simp [Host.given?, hvariants, hgiven, Except.toOption]
    have htags : host.tags variant = true := by simp [Host.tags, hvalues]
    have hordinal := hpreset.ordinalAt
    rw [hhere] at hordinal
    obtain ⟨hmade, hothers⟩ := @ih (front ++ [variant]) (by simp [hvariants])
      (by simpa using hordinal.presetAt_succ)
    refine ⟨?_, List.forall_mem_cons.mpr ⟨by simp [htags], hothers⟩⟩
    have hfirst : Member.IsMade host variants ⟨variant.ident, given.getD preset, values⟩
        (variant, front.length) := ⟨rfl, hvalues, hordinal⟩
    simpa [htags] using And.intro hfirst (by simpa using hmade)

end Resolution

namespace Declaration

variable {host : Host} {item : EnumItem} {fullName : String}
  {options : Except Problem WrapperOptions} {declaration : Declaration}

/-- Every member of a declaration is made of a tagged variant, in their order. -/
theorem made_of_resolve (h : (resolve host item fullName options).2 = .ok declaration) :
    List.Forall₂ (Member.IsMade host item.variants) declaration.members
        (host.tagged item.variants) ∧
      ∀ variant ∈ item.variants, host.tags variant = false →
        host.variantValues variant = .ok none := by
  obtain ⟨wrapper, repr, members, _, _, _, hfinds, rfl⟩ := resolve_eq_ok h
  exact hfinds.made (List.nil_append _).symm Host.presetAt_zero

/-- A declaration has all variants of its enumeration, and the tagged ones are its members, each
with its own values and with the ordinal of its position. A host that gives the same ordinals finds
them for all variants that are members with both hosts, whatever their values are. -/
theorem members_of_resolve (hresolve : (resolve host item fullName options).2 = .ok declaration) :
    declaration.variants = item.variants.map Variant.ident ∧
      List.Forall₂ (Member.IsMade host item.variants) declaration.members
        (host.tagged item.variants) ∧
      (∀ variant ∈ item.variants, host.tags variant = false →
        host.variantValues variant = .ok none) ∧
      ∀ (other : Host) (otherName : String) (otherOptions : Except Problem WrapperOptions)
        (another : Declaration),
        (∀ variant ∈ item.variants, other.initializer variant = host.initializer variant) →
        (resolve other item otherName otherOptions).2 = .ok another →
        ∀ (first second : Member) (entry : Variant × Nat),
          (first, entry) ∈ declaration.members.zip (host.tagged item.variants) →
          (second, entry) ∈ another.members.zip (other.tagged item.variants) →
          second.ordinal = first.ordinal := by
  obtain ⟨hmade, huntagged⟩ := made_of_resolve hresolve
  refine ⟨variants_of_resolve hresolve, hmade, huntagged, ?_⟩
  intro other otherName otherOptions another hsame hother first second entry hfirst hsecond
  obtain ⟨hotherMade, _⟩ := made_of_resolve hother
  have hordinal := ((List.forall₂_iff_zip.mp hmade).2 hfirst).ordinal
  have hotherOrdinal := ((List.forall₂_iff_zip.mp hotherMade).2 hsecond).ordinal
  exact hotherOrdinal.unique (hordinal.congr (Host.given?_congr hsame))

/-- The largest word between two tagged variants, at one that is not tagged. -/
def turningItem : EnumItem :=
  .ofVariants "Level" []
    [.ofTexts "Low" (some "1") none,
      .ofTexts "Middle" none (some (.literal [] ⟨"9223372036854775807", .nowhere⟩)),
      .ofTexts "High" (some "2") none]

/-- A host that tags all variants, without any values. -/
def taggingHost : Host :=
  { Host.ofSchema .standard with variantValues := fun _ => .ok (some (.ok [])) }

/-- The declaration of the enumeration with some members. -/
def turning (members : List Member) (types : List ValueType) : Declaration where
  visibility := .inherited
  repr := .i32
  ident := .ofText "Level"
  fullName := "Level"
  wrapper := .ofText "Number"
  convertOrdinal := true
  throwOnCastFailure := true
  variants := [.ofText "Low", .ofText "Middle", .ofText "High"]
  members := members
  types := some types

/-- The members that are tagged by the schema. -/
def turningMembers : List Member :=
  [⟨.ofText "Low", 0, [⟨.integer .i32, false, ⟨"1", .nowhere⟩⟩]⟩,
    ⟨.ofText "High", Int64.minValue, [⟨.integer .i32, false, ⟨"2", .nowhere⟩⟩]⟩]

/-- The members if all variants are tagged. -/
def taggedMembers : List Member :=
  [⟨.ofText "Low", 0, []⟩, ⟨.ofText "Middle", Int64.maxValue, []⟩,
    ⟨.ofText "High", Int64.minValue, []⟩]

/-- The example is resolved with the members that the schema tags. -/
theorem resolve_turning :
    (resolve (.ofSchema .standard) turningItem "Level" (.ok ⟨.ofText "Number", true, true⟩)).2 =
      .ok (turning turningMembers [.integer .i32]) := by rfl

/-- The host that tags all variants resolves it with one more member. -/
theorem resolve_turning_tagging :
    (resolve taggingHost turningItem "Level" (.ok ⟨.ofText "Number", true, true⟩)).2 =
      .ok (turning taggedMembers []) := by rfl

/-- The last variant counts up from the one in front of it, which is no member with the one host and
is one with the other. -/
theorem members_of_turning :
    ((resolve (.ofSchema .standard) turningItem "Level"
        (.ok ⟨.ofText "Number", true, true⟩)).2 = .ok (turning turningMembers [.integer .i32]) ∧
      (resolve taggingHost turningItem "Level" (.ok ⟨.ofText "Number", true, true⟩)).2 =
        .ok (turning taggedMembers []) ∧
      ∀ variant ∈ turningItem.variants,
        taggingHost.initializer variant = (Host.ofSchema .standard).initializer variant) ∧
      List.Forall₂ (Member.IsMade (.ofSchema .standard) turningItem.variants) turningMembers
        ((Host.ofSchema .standard).tagged turningItem.variants) ∧
      taggedMembers[2].ordinal = turningMembers[1].ordinal := by
  have hsame : ∀ variant ∈ turningItem.variants,
      taggingHost.initializer variant = (Host.ofSchema .standard).initializer variant :=
    fun _ _ => rfl
  obtain ⟨_, hmade, _, hordinals⟩ := members_of_resolve resolve_turning
  refine ⟨⟨resolve_turning, resolve_turning_tagging, hsame⟩, hmade, ?_⟩
  exact hordinals _ _ _ _ hsame resolve_turning_tagging _ _ (turningItem.variants[2], 2)
    (List.mem_of_getElem? (i := 1) rfl) (List.mem_of_getElem? (i := 2) rfl)

end Declaration

end ValuedEnum
