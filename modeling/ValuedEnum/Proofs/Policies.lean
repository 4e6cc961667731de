import ValuedEnum.Proofs.Obtainable

/-!
# Two policies for failed conversions

What no arm accepts is returned as an error, or is converted to a default. Wrappers for both
policies are emitted by templates of their own. This file proves that they differ in nothing else:
their conversions have the same types, they return the same values, and the error of one stands
where the default of the other one does.
-/

namespace ValuedEnum

open TokenStream Code

/-! ### Signatures of emitted conversions -/

/-- What is said of the types of a conversion: whether it may fail, whether it is for any lifetime
of what it borrows, what it converts and to what, its parameter, and the type of its errors. -/
structure Signature where
  fallible : Bool
  borrows : Bool
  source : TokenStream
  target : TokenStream
  parameter : TokenStream
  error : Option TokenStream

/-- What stands between parentheses. -/
def TokenTree.argument? : TokenTree → Option TokenStream
  | group .parenthesis inner _ => some inner
  | _ => none

namespace Signature

/-- The type that a body declares for its errors. -/
def error? : TokenStream → Option TokenStream
  | .ident keyword :: .ident declared :: .punct '=' _ _ :: rest =>
    if keyword.text = "type" ∧ declared.text = "Error" then
      some (rest.takeWhile fun tree => !tree.isSemicolon)
    else none
  | _ => none

/-- The signature of an implementation: the type that it converts stands between the angle brackets
of the trait. -/
def ofItem? : CodeItem → Option Signature
  | .implementation borrows interface target body =>
    match WrittenConversion.fallible? interface, body.findSome? TokenTree.argument? with
    | some fallible, some parameter =>
      some ⟨fallible, borrows, (interface.readPath.2.drop 1).dropLast, target, parameter,
        error? body⟩
    | _, _ => none
  | _ => none

/-- The signature of the same conversion where it may fail, with its input as the error. -/
def refusing (signature : Signature) : Signature :=
  { signature with fallible := true, error := some signature.source }

end Signature

/-- Tokens that a declaration of a type can hold. -/
def TokenStream.IsType (tokens : TokenStream) : Prop :=
  ∀ tree ∈ tokens, tree.isSemicolon = false ∧ tree.argument? = none

namespace Signature

/-- The error type of a conversion ends at the semicolon behind it. -/
theorem error?_type {source : TokenStream} (hsource : source.IsType) (rest : TokenStream) :
    error? (word "type" ++ (word "Error" ++ (sign "=" ++ (source ++ (sign ";" ++ rest))))) =
      some source := by
  have hsemicolon : ∀ tree ∈ source, (!tree.isSemicolon) = true := fun tree htree => by
    simp [(hsource tree htree).1]
  have hend : (sign ";" ++ rest).takeWhile (fun tree => !tree.isSemicolon) = [] := rfl
  change some ((source ++ (sign ";" ++ rest)).takeWhile fun tree => !tree.isSemicolon) = _
  rw [List.takeWhile_append_of_pos hsemicolon, hend, List.append_nil]

/-- The parameter of a function is its first argument. -/
theorem parameter_function {front : TokenStream}
    (hfront : front.findSome? TokenTree.argument? = none) (lint text : String)
    (parameter result body : TokenStream) :
    (front ++ allow lint ++ alwaysInline ++
      function (word text) parameter result body).findSome? TokenTree.argument? =
        some parameter := by
  rw [List.append_assoc, List.append_assoc, List.findSome?_append, hfront]
  rfl

end Signature

/-- The type that is borrowed from an input may be declared. -/
theorem ValueType.isType_input (type : ValueType) : type.input.IsType := by
  cases type with
  | string | byteString =>
    simp [TokenStream.IsType, input, tokens, borrowed, sign, signs, word, bracketed,
      TokenTree.isSemicolon, TokenTree.argument?]
  | _ =>
    simp [TokenStream.IsType, input, tokens, word, TokenTree.isSemicolon, TokenTree.argument?]

namespace Declaration

/-- The same declaration with a policy for failed conversions. -/
def withPolicy (declaration : Declaration) (throws : Bool) : Declaration :=
  { declaration with throwOnCastFailure := throws }

variable (declaration : Declaration)

/-- The type that a slot is converted from may be declared. -/
theorem isType_inputType (slot : Slot) : (declaration.inputType slot).IsType := by
  cases slot with
  | value index type => exact type.isType_input
  | _ =>
    simp [inputType, name, TokenStream.IsType, word, TokenTree.isSemicolon, TokenTree.argument?]

/-- The signatures of the conversions of a slot. -/
def signatures (slot : Slot) : List Signature :=
  (declaration.conversionItems (declaration.conversion slot)).filterMap Signature.ofItem?

/-- A conversion is emitted with the signature that it is meant to have. -/
theorem ofItem?_signature (borrows : Bool) {source : TokenStream} (hsource : source.IsType)
    (target input : TokenStream) (arms : List Arm) :
    Signature.ofItem? (declaration.conversionItem borrows source target input arms) =
      some ⟨declaration.throwOnCastFailure, borrows, source, target,
        word "value" ++ sign ":" ++ source,
        if declaration.throwOnCastFailure then some source else none⟩ := by
  have htrait := declaration.fallible?_conversionTrait source
  have hbetween : ((declaration.conversionTrait source).readPath.2.drop 1).dropLast = source := by
    have hread : (declaration.conversionTrait source).readPath.2 = angled source := rfl
    simp [hread, angled, sign, signs]
  have hargument : source.findSome? TokenTree.argument? = none :=
    List.findSome?_eq_none_iff.mpr fun tree htree => (hsource tree htree).2
  have hfront : (word "type" ++ word "Error" ++ sign "=" ++ source ++ sign ";").findSome?
      TokenTree.argument? = none := by
    simp only [List.findSome?_append, hargument]
    rfl
  simp only [conversionItem, Signature.ofItem?, htrait, hbetween]
  cases declaration.throwOnCastFailure with
  | true =>
    simp only [if_true, Signature.parameter_function hfront]
    simp only [List.append_assoc, Signature.error?_type hsource]
  | false => rfl

/-- The conversions of a slot: from the wrapper and to it, with the input as the error if they may
fail. -/
theorem signatures_eq (slot : Slot) :
    declaration.signatures slot =
      [⟨declaration.throwOnCastFailure, false, name declaration.wrapper,
          declaration.outputType slot, word "value" ++ sign ":" ++ name declaration.wrapper,
          if declaration.throwOnCastFailure then some (name declaration.wrapper) else none⟩,
        ⟨declaration.throwOnCastFailure, borrows slot, declaration.inputType slot,
          name declaration.wrapper, word "value" ++ sign ":" ++ declaration.inputType slot,
          if declaration.throwOnCastFailure then some (declaration.inputType slot) else none⟩] := by
  have hwrapper : (name declaration.wrapper).IsType := by
    simp [name, TokenStream.IsType, TokenTree.isSemicolon, TokenTree.argument?]
  have hslot : (declaration.conversion slot).slot = slot := rfl
  simp only [signatures, conversionItems, hslot, List.filterMap_cons, List.filterMap_nil,
    declaration.ofItem?_signature _ hwrapper,
    declaration.ofItem?_signature _ (declaration.isType_inputType slot)]

end Declaration

/-! ### Outcomes under both policies -/

/-- The outcomes of a conversion that may fail and of one that may not, and whether the second one
takes the arm of the default. Both return one value, or the first one returns its input as an error
and the second one the default. -/
inductive Reconciled {ε τ : Type} (input : ε) (preset : τ) :
    (throwing defaulting : Option (Except ε τ)) → (defaults : Bool) → Prop
  | converted (value : τ) : Reconciled input preset (some (.ok value)) (some (.ok value)) false
  | failed : Reconciled input preset (some (.error input)) (some (.ok preset)) true

namespace Reconciled

variable {ε τ : Type} {input : ε} {preset : τ} {throwing defaulting : Option (Except ε τ)}

/-- Where the default is not taken, both conversions return one value. -/
theorem exists_value (h : Reconciled input preset throwing defaulting false) :
    ∃ value, throwing = some (.ok value) ∧ defaulting = some (.ok value) := by
  cases h with
  | converted value => exact ⟨value, rfl, rfl⟩

/-- Where the default is taken, the other conversion returns its input as an error. -/
theorem eq_preset (h : Reconciled input preset throwing defaulting true) :
    throwing = some (.error input) ∧ defaulting = some (.ok preset) := by
  cases h with
  | failed => exact ⟨rfl, rfl⟩

end Reconciled

/-- Whether the first arm that accepts returns the default of a type. -/
def WrittenConversion.defaults (conversion : WrittenConversion) (accepts : TokenStream → Bool) :
    Bool :=
  (conversion.arms.find? fun arm => accepts arm.pattern).any fun arm =>
    (arm.result.call? ["core", "default", "Default", "default"]).isSome

namespace Declaration

variable {α : Type} {declaration : Declaration} (meaning : Interpretation α) {slot : Slot}

section

variable (declaration)

/-- Whether a wrapper is converted by the arm of the default. -/
def leaveDefaults (slot : Slot) (wrapper : Wrapped) : Bool :=
  (declaration.leaving? slot).any fun conversion =>
    conversion.defaults
      (WrittenArm.accepts meaning declaration.ident.text .enumeration · (.variant wrapper.variant))

/-- Whether a value is converted by the arm of the default. -/
def enterDefaults (slot : Slot) (input : SlotValue α) : Bool :=
  (declaration.entering? slot).any fun conversion =>
    conversion.defaults (WrittenArm.accepts meaning declaration.ident.text slot · input)

/-- The default is returned for what no arm of a member accepts. -/
theorem defaults_arms (hthrow : declaration.throwOnCastFailure = false)
    (accepts : TokenStream → Bool) (haccepts : accepts (word "_") = true) (inside : Bool)
    (arms : List Arm) :
    WrittenConversion.defaults ⟨declaration.throwOnCastFailure, inside,
        arms.map declaration.written ++ [declaration.writtenFallback]⟩ accepts =
      (arms.find? fun arm => accepts (declaration.armPattern arm)).isNone := by
  rw [WrittenConversion.defaults, List.find?_append, List.find?_map]
  have hwritten : (fun arm => accepts arm.pattern) ∘ declaration.written =
      fun arm => accepts (declaration.armPattern arm) := rfl
  rw [hwritten]
  cases arms.find? fun arm => accepts (declaration.armPattern arm) with
  | some arm => simp [written, armResult, hthrow]
  | none => simp [writtenFallback, haccepts, hthrow, preset]

end

/-- The default is taken for wrappers of variants that are no members. -/
theorem Resolved.leaveDefaults_eq (hresolved : declaration.Resolved)
    (hthrow : declaration.throwOnCastFailure = false) (hslot : slot ∈ declaration.slots)
    (wrapper : Wrapped) :
    declaration.leaveDefaults meaning slot wrapper =
      (declaration.memberNamed? wrapper.variant).isNone := by
  have hwildcard :=
    accepts_wildcard meaning declaration.ident.text .enumeration (.variant wrapper.variant)
  rw [leaveDefaults, leaving?_eq, Option.any_some,
    declaration.defaults_arms hthrow (WrittenArm.accepts meaning declaration.ident.text .enumeration
      · (.variant wrapper.variant)) hwildcard, hresolved.find?_outgoing meaning hslot]
  cases hnamed : declaration.memberNamed? wrapper.variant with
  | none => rfl
  | some member =>
    obtain ⟨entry, hentry, _⟩ := hresolved.fits hslot (List.mem_of_find?_eq_some hnamed)
    simp [hentry]

/-- The default is taken for values that are equal to no entry. -/
theorem Resolved.enterDefaults_eq (hresolved : declaration.Resolved)
    (hthrow : declaration.throwOnCastFailure = false) (hslot : slot ∈ declaration.slots)
    (input : SlotValue α) :
    declaration.enterDefaults meaning slot input =
      (declaration.firstEqual? meaning slot input).isNone := by
  have hwildcard := accepts_wildcard meaning declaration.ident.text slot input
  rw [enterDefaults, entering?_eq, Option.any_some,
    declaration.defaults_arms hthrow (WrittenArm.accepts meaning declaration.ident.text slot
      · input) hwildcard, hresolved.find?_incoming meaning hslot]
  cases hfirst : declaration.firstEqual? meaning slot input with
  | none => rfl
  | some member =>
    obtain ⟨entry, hentry, _⟩ := hresolved.fits hslot (List.mem_of_find?_eq_some hfirst)
    simp [hentry]

/-- A policy makes no difference to the members. -/
theorem Resolved.withPolicy (hresolved : declaration.Resolved) (throws : Bool) :
    (declaration.withPolicy throws).Resolved where
  types := hresolved.types
  idents := hresolved.idents

/-- A wrapper is converted to one value under both policies, unless no member is named like the
variant inside. -/
theorem Resolved.leave?_reconciled (hresolved : declaration.Resolved)
    (hslot : slot ∈ declaration.slots) (wrapper : Wrapped) :
    Reconciled wrapper (meaning.presetOf slot)
      ((declaration.withPolicy true).leave? meaning slot wrapper)
      ((declaration.withPolicy false).leave? meaning slot wrapper)
      ((declaration.withPolicy false).leaveDefaults meaning slot wrapper) := by
  have hnamed (throws : Bool) (name : String) :
      (declaration.withPolicy throws).memberNamed? name = declaration.memberNamed? name := rfl
  rw [(hresolved.withPolicy true).leave?_eq meaning hslot,
    (hresolved.withPolicy false).leave?_eq meaning hslot,
    (hresolved.withPolicy false).leaveDefaults_eq meaning rfl hslot, hnamed, hnamed]
  cases hmember : declaration.memberNamed? wrapper.variant with
  | none => exact .failed
  | some member =>
    obtain ⟨entry, hentry, hfits⟩ := hresolved.fits hslot (List.mem_of_find?_eq_some hmember)
    obtain ⟨value, hvalue⟩ : ∃ value, meaning.value? declaration.ident.text slot
        (declaration.entryTokens entry) = some value := exists_value?_entryTokens meaning hfits
    have hpolicy (throws : Bool) : (declaration.withPolicy throws).entryTokens =
        declaration.entryTokens := rfl
    have hident (throws : Bool) : (declaration.withPolicy throws).ident = declaration.ident := rfl
    simp only [hentry, Option.bind_some, hpolicy, hident, hvalue, Option.map_some]
    exact .converted value

/-- An input is converted to one wrapper under both policies, unless no member has an entry that is
equal to it. -/
theorem Resolved.enter?_reconciled (hresolved : declaration.Resolved)
    (hslot : slot ∈ declaration.slots) (input : SlotValue α) :
    Reconciled input ⟨meaning.presetVariant⟩
      ((declaration.withPolicy true).enter? meaning slot input)
      ((declaration.withPolicy false).enter? meaning slot input)
      ((declaration.withPolicy false).enterDefaults meaning slot input) := by
  have hfirst (throws : Bool) : (declaration.withPolicy throws).firstEqual? meaning slot input =
      declaration.firstEqual? meaning slot input := rfl
  rw [(hresolved.withPolicy true).enter?_eq meaning hslot,
    (hresolved.withPolicy false).enter?_eq meaning hslot,
    (hresolved.withPolicy false).enterDefaults_eq meaning rfl hslot, hfirst, hfirst]
  cases declaration.firstEqual? meaning slot input with
  | none => exact .failed
  | some member => exact .converted _

/-! ### Display -/

/-- A wrapper of a tagged variant is shown as one value under both policies; one of any other
variant is an error under the first one and shown as the default under the second one. -/
theorem Resolved.show?_reconciled (hresolved : declaration.Resolved) {index : Nat}
    (hslot : .value index .string ∈ declaration.slots) {ident : Ident}
    (hident : ident ∈ declaration.variants) :
    ((∃ member ∈ declaration.members, member.ident.text = ident.text) →
      ∃ text, (declaration.withPolicy true).show? meaning ⟨ident.text⟩ = some (.ok text) ∧
        (declaration.withPolicy false).show? meaning ⟨ident.text⟩ = some (.ok text)) ∧
    ((∀ member ∈ declaration.members, member.ident.text ≠ ident.text) →
      (declaration.withPolicy true).show? meaning ⟨ident.text⟩ = some (.error ()) ∧
      (declaration.withPolicy false).show? meaning ⟨ident.text⟩ =
        some (.ok (meaning.presetOf (.value index .string)))) := by
  have hstring (throws : Bool) :
      ((declaration.withPolicy throws).types.getD []).any ValueType.isString = true :=
    ValueType.any_isString_iff.mpr (List.mem_of_getElem? (value_mem_slots_iff.mp hslot).1)
  have hfind (throws : Bool) :
      (declaration.withPolicy throws).slots.find? Slot.isString = some (.value index .string) :=
    (declaration.withPolicy throws).find?_isString hslot
  have hclone (throws : Bool) :
      (declaration.withPolicy throws).clone? meaning ⟨ident.text⟩ = some ⟨ident.text⟩ := by
    rw [clone?_eq]
    exact if_pos (List.mem_map_of_mem hident)
  -- To show a wrapper is to convert it to the string slot, so what is known of both conversions
  -- decides.
  have hpair := hresolved.leave?_reconciled meaning hslot ⟨ident.text⟩
  have hdefaults : (declaration.withPolicy false).leaveDefaults meaning (.value index .string)
      ⟨ident.text⟩ = (declaration.memberNamed? ident.text).isNone :=
    (hresolved.withPolicy false).leaveDefaults_eq meaning rfl hslot ⟨ident.text⟩
  rw [hdefaults] at hpair
  constructor
  · rintro ⟨member, hmember, hname⟩
    have hsome : (declaration.memberNamed? ident.text).isSome = true :=
      List.find?_isSome.mpr ⟨member, hmember, by simpa using hname⟩
    rw [Option.isNone_eq_false_iff.mpr hsome] at hpair
    obtain ⟨text, hthrowing, hdefaulting⟩ := hpair.exists_value
    exact ⟨text, show?_of_leave? _ meaning (hstring true) (hfind true) (hclone true) hthrowing,
      show?_of_leave? _ meaning (hstring false) (hfind false) (hclone false) hdefaulting⟩
  · intro hnone
    have hnamed : declaration.memberNamed? ident.text = none :=
      List.find?_eq_none.mpr fun member hmember => by simpa using hnone member hmember
    rw [hnamed] at hpair
    obtain ⟨hthrowing, hdefaulting⟩ := hpair.eq_preset
    exact ⟨show?_of_leave?_error _ meaning (hstring true) rfl (hfind true) (hclone true) hthrowing,
      show?_of_leave? _ meaning (hstring false) (hfind false) (hclone false) hdefaulting⟩

/-! ### Both wrappers of an enumeration -/

/-- A policy for failed conversions is no part of what is found in an enumeration. -/
theorem resolve_withPolicy (host : Host) (item : EnumItem) (fullName : String)
    (options : WrapperOptions) (throws : Bool) :
    (resolve host item fullName (.ok { options with throwOnCastFailure := throws })).2 =
      (resolve host item fullName (.ok options)).2.map (·.withPolicy throws) := by
  unfold resolve
  simp only
  split
  · rfl
  · split
    · rfl
    · split <;> rfl

/-- What two declarations have in common that differ in their policy for failed conversions. All
that is run here of either wrapper is emitted with it. They have the same slots, and the conversions
of a slot have the same types. Each wrapper and each input is converted to one value by both, unless
the first one returns it as an error and the second one takes the arm of the default. So the
variants that are tagged are shown alike, and the others are an error for the first one and the
default string for the second one. -/
structure Agree (throwing defaulting : Declaration) (variants : List Variant) : Prop where
  emitted : (∀ code ∈ throwing.usedItems, code ∈ throwing.items) ∧
    ∀ code ∈ defaulting.usedItems, code ∈ defaulting.items
  slots : throwing.slots = defaulting.slots
  signatures : ∀ slot ∈ throwing.slots, ∃ leaving entering : Signature,
    leaving.fallible = false ∧ entering.fallible = false ∧
    defaulting.signatures slot = [leaving, entering] ∧
    throwing.signatures slot = [leaving.refusing, entering.refusing]
  preset {α : Type} (meaning : Interpretation α) :
    defaulting.presetWrapper? meaning = some ⟨meaning.presetVariant⟩
  leave {α : Type} (meaning : Interpretation α) : ∀ slot ∈ throwing.slots, ∀ wrapper,
    Reconciled wrapper (meaning.presetOf slot) (throwing.leave? meaning slot wrapper)
      (defaulting.leave? meaning slot wrapper) (defaulting.leaveDefaults meaning slot wrapper)
  enter {α : Type} (meaning : Interpretation α) : ∀ slot ∈ throwing.slots, ∀ input,
    Reconciled input ⟨meaning.presetVariant⟩ (throwing.enter? meaning slot input)
      (defaulting.enter? meaning slot input) (defaulting.enterDefaults meaning slot input)
  shown : (throwing.displayItems = [] ∧ defaulting.displayItems = []) ∨
    ∃ index, .value index .string ∈ throwing.slots ∧
      ∀ {α : Type} (meaning : Interpretation α), ∀ variant ∈ variants,
        ((∃ member ∈ throwing.members, member.ident.text = variant.ident.text) →
          ∃ text, throwing.show? meaning ⟨variant.ident.text⟩ = some (.ok text) ∧
            defaulting.show? meaning ⟨variant.ident.text⟩ = some (.ok text)) ∧
        ((∀ member ∈ throwing.members, member.ident.text ≠ variant.ident.text) →
          throwing.show? meaning ⟨variant.ident.text⟩ = some (.error ()) ∧
          defaulting.show? meaning ⟨variant.ident.text⟩ =
            some (.ok (meaning.presetOf (.value index .string))))

/-- The two wrappers of a declaration agree. -/
theorem Resolved.agree (hresolved : declaration.Resolved) {variants : List Variant}
    (hvariants : declaration.variants = variants.map Variant.ident) :
    Agree (declaration.withPolicy true) (declaration.withPolicy false) variants where
  emitted := ⟨usedItems_subset_items _, usedItems_subset_items _⟩
  slots := rfl
  signatures slot _ := ⟨_, _, rfl, rfl, signatures_eq _ slot, signatures_eq _ slot⟩
  preset meaning := presetWrapper?_eq _ meaning
  leave meaning _ hslot wrapper := hresolved.leave?_reconciled meaning hslot wrapper
  enter meaning _ hslot input := hresolved.enter?_reconciled meaning hslot input
  shown := by
    by_cases hstring : .string ∈ declaration.types.getD []
    · obtain ⟨index, hslot⟩ := exists_value_mem_slots hstring
      refine .inr ⟨index, hslot, fun meaning variant hvariant => ?_⟩
      have hident : variant.ident ∈ declaration.variants :=
        hvariants ▸ List.mem_map_of_mem hvariant
      exact hresolved.show?_reconciled meaning hslot hident
    · have hany : ¬(declaration.types.getD []).any ValueType.isString = true := fun h =>
        hstring (ValueType.any_isString_iff.mp h)
      exact .inl ⟨if_neg hany, if_neg hany⟩

/-- An enumeration is read alike under both policies for failed conversions: either there is one
fault under both, or both declarations agree. -/
theorem agree_of_policies (host : Host) (item : EnumItem) (fullName : String)
    (options : WrapperOptions) :
    (∃ fault,
      (resolve host item fullName (.ok { options with throwOnCastFailure := true })).2 =
        .error fault ∧
      (resolve host item fullName (.ok { options with throwOnCastFailure := false })).2 =
        .error fault) ∨
    ∃ throwing defaulting,
      (resolve host item fullName (.ok { options with throwOnCastFailure := true })).2 =
        .ok throwing ∧
      (resolve host item fullName (.ok { options with throwOnCastFailure := false })).2 =
        .ok defaulting ∧
      Agree throwing defaulting item.variants := by
  rw [resolve_withPolicy host item fullName options true,
    resolve_withPolicy host item fullName options false]
  cases hresolve : (resolve host item fullName (.ok options)).2 with
  | error fault => exact .inl ⟨fault, rfl, rfl⟩
  | ok declaration =>
    exact .inr ⟨_, _, rfl, rfl,
      (Resolved.of_resolve hresolve).agree (variants_of_resolve hresolve)⟩

/-- Both declarations of an enumeration agree whose second variant alone is tagged. A wrapper of the
first one is an error when it is shown by one of them, and the default string under the other
one. -/
theorem agree_of_labelled :
    ∃ throwing defaulting,
      (resolve (.ofSchema .standard) labelledItem "Signal"
        (.ok ⟨.ofText "Label", true, true⟩)).2 = .ok throwing ∧
      (resolve (.ofSchema .standard) labelledItem "Signal"
        (.ok ⟨.ofText "Label", true, false⟩)).2 = .ok defaulting ∧
      Agree throwing defaulting labelledItem.variants ∧
      throwing.show? labels ⟨"Off"⟩ = some (.error ()) ∧
      defaulting.show? labels ⟨"Off"⟩ = some (.ok (.literal "")) := by
  have hresolve : (resolve (.ofSchema .standard) labelledItem "Signal"
      (.ok ⟨.ofText "Label", true, true⟩)).2 = .ok labelled := by rfl
  obtain ⟨fault, hfault, -⟩ | ⟨throwing, defaulting, hthrowing, hdefaulting, hagree⟩ :=
    agree_of_policies (.ofSchema .standard) labelledItem "Signal" ⟨.ofText "Label", true, true⟩
  · cases hresolve.symm.trans hfault
  · obtain rfl : labelled = throwing := Except.ok.inj (hresolve.symm.trans hthrowing)
    refine ⟨labelled, defaulting, hresolve, hdefaulting, hagree, ?_⟩
    obtain ⟨hnone, -⟩ | ⟨index, hslot, hshown⟩ := hagree.shown
    · exact absurd hnone (by simp [displayItems, labelled, ValueType.isString])
    · exact (hshown labels (.ofTexts "Off" none none) (.head _)).2 (by decide)

end Declaration

end ValuedEnum
