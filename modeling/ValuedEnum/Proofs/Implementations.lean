import ValuedEnum.Proofs.Conversions
import ValuedEnum.Proofs.Emission.Call
import ValuedEnum.Proofs.Emission.Display
import ValuedEnum.Proofs.Emission.Header

/-!
# Implementations that fit together

The implementations of a wrapper are emitted by functions of their own. This file proves that they
neither conflict nor miss one another: no trait is implemented twice for one type, a wrapper is
shown exactly if it is converted to strings, and it has a default value exactly if conversions rely
on one.
-/

namespace ValuedEnum

open TokenStream Code

/-- A header of a conversion. -/
def Header.Converts (header : Header) : Prop := header.interface[3]? = some "convert"

namespace Declaration

variable {declaration : Declaration}

/-! ### Types of slots -/

/-- The slots in terms of the types alone. -/
theorem slots_eq (declaration : Declaration) :
    declaration.slots =
      (if declaration.convertOrdinal = true ∧
          ∀ type ∈ declaration.types.getD [], type.name ≠ declaration.repr.name then [.ordinal]
        else []) ++
      .enumeration :: Slot.ofTypes 0 [] (declaration.types.getD []) := by
  have hrepr : .integer declaration.repr ∉ declaration.types.getD [] ↔
      ∀ type ∈ declaration.types.getD [], type.name ≠ declaration.repr.name := by
    constructor
    · intro hnone type htype hname
      have hinteger : type = .integer declaration.repr := ValueType.name_injective hname
      exact hnone (hinteger ▸ htype)
    · intro hnames hmem
      exact hnames _ hmem rfl
  simp only [slots, Bool.and_eq_true, Bool.not_eq_true', List.contains_eq_mem,
    decide_eq_false_iff_not, hrepr]

/-- The type of no slot has the name of the wrapper. -/
theorem NamesApart.slotWords_ne (hnames : declaration.NamesApart) (slot : Slot) :
    declaration.slotWords slot ≠ [declaration.wrapper.bare] := by
  intro hwords
  rw [slotWords_eq] at hwords
  cases htype : declaration.valueType? slot with
  | none =>
    simp only [htype, List.cons.injEq, and_true] at hwords
    exact hnames.apart hwords.symm
  | some type =>
    simp only [htype] at hwords
    exact hnames.wrapper (ValueType.mem_primitiveNames hwords)

/-- No two slots have one type of values: ordinals have no slot beside values of their type. -/
theorem valueType?_inj {first second : Slot} (hfirst : first ∈ declaration.slots)
    (hsecond : second ∈ declaration.slots)
    (htype : declaration.valueType? first = declaration.valueType? second) : first = second := by
  have hordinal {index : Nat} {type : ValueType} (hslot : .ordinal ∈ declaration.slots)
      (hvalue : .value index type ∈ declaration.slots) : type ≠ .integer declaration.repr := by
    rintro rfl
    exact (ordinal_mem_slots_iff.mp hslot).2
      (List.mem_of_getElem? (value_mem_slots_iff.mp hvalue).1)
  cases first with
  | ordinal =>
    cases second with
    | ordinal => rfl
    | enumeration => simp [valueType?] at htype
    | value index type => exact absurd (Option.some.inj htype).symm (hordinal hfirst hsecond)
  | enumeration =>
    cases second with
    | enumeration => rfl
    | _ => simp [valueType?] at htype
  | value index type =>
    cases second with
    | ordinal => exact absurd (Option.some.inj htype) (hordinal hsecond hfirst)
    | enumeration => simp [valueType?] at htype
    | value other another =>
      obtain rfl : type = another := Option.some.inj htype
      rw [value_mem_slots_unique hfirst hsecond]

/-- Slots for different types have different types in the generated code. -/
theorem NamesApart.slotWords_inj (hnames : declaration.NamesApart) {first second : Slot}
    (hfirst : first ∈ declaration.slots) (hsecond : second ∈ declaration.slots)
    (hwords : declaration.slotWords first = declaration.slotWords second) : first = second := by
  refine valueType?_inj hfirst hsecond ?_
  rw [slotWords_eq, slotWords_eq] at hwords
  cases hfirstType : declaration.valueType? first with
  | none =>
    cases hsecondType : declaration.valueType? second with
    | none => rfl
    | some type =>
      simp only [hfirstType, hsecondType] at hwords
      exact absurd (ValueType.mem_primitiveNames hwords.symm) hnames.ident
  | some type =>
    cases hsecondType : declaration.valueType? second with
    | none =>
      simp only [hfirstType, hsecondType] at hwords
      exact absurd (ValueType.mem_primitiveNames hwords) hnames.ident
    | some other =>
      simp only [hfirstType, hsecondType] at hwords
      rw [ValueType.words_injective hwords]

/-- The types of all slots are told apart by their words. -/
theorem NamesApart.nodup_slotWords (hnames : declaration.NamesApart) :
    (declaration.slots.map declaration.slotWords).Nodup :=
  declaration.nodup_slots.map_on fun _ hfirst _ hsecond h => hnames.slotWords_inj hfirst hsecond h

/-! ### Headers -/

/-- The conversion of a wrapper has the header of a conversion. -/
theorem converts_leavingHeader (target : List String) :
    (declaration.leavingHeader target).Converts := rfl

/-- The conversion to a wrapper has the header of a conversion. -/
theorem converts_enteringHeader (source : List String) :
    (declaration.enteringHeader source).Converts := rfl

/-- The conversions are those of some slot, in one of both directions. -/
theorem mem_conversionHeaders_iff {header : Header} :
    header ∈ declaration.conversionHeaders ↔ ∃ slot ∈ declaration.slots,
      header = declaration.leavingHeader (declaration.slotWords slot) ∨
        header = declaration.enteringHeader (declaration.slotWords slot) := by
  simp [conversionHeaders]

/-- All of them have headers of conversions. -/
theorem converts_of_mem_conversionHeaders {header : Header}
    (h : header ∈ declaration.conversionHeaders) : header.Converts := by
  obtain ⟨slot, _, rfl | rfl⟩ := mem_conversionHeaders_iff.mp h
  · exact converts_leavingHeader _
  · exact converts_enteringHeader _

/-- The traits that wrappers implement beside conversions. -/
def traits : List (List String) :=
  [["default", "Default"], ["cmp", "PartialEq"], ["cmp", "Eq"], ["hash", "Hash"],
    ["clone", "Clone"], ["fmt", "Debug"], ["fmt", "Display"]]

/-- The traits beside conversions are none. -/
theorem not_converts_wrapperHeader {names : List String} (hnames : names ∈ traits) :
    ¬ (declaration.wrapperHeader names).Converts := by
  have hall : ∀ names ∈ traits, (core names).words[3]? ≠ some "convert" := by decide
  exact hall names hnames

/-- The traits beside conversions are told apart by their headers. -/
theorem wrapperHeader_inj {first second : List String} (hfirst : first ∈ traits)
    (hsecond : second ∈ traits)
    (h : declaration.wrapperHeader first = declaration.wrapperHeader second) : first = second := by
  have hall : ∀ first ∈ traits, ∀ second ∈ traits, (core first).words = (core second).words →
      first = second := by decide
  exact hall first hfirst second hsecond (congrArg Header.interface h)

/-- The traits around the conversions. -/
def plainTraits (declaration : Declaration) : List (List String) :=
  declaration.frontTraits ++ declaration.backTraits

/-- The traits that a wrapper implements around its conversions are among those beside them. -/
theorem plainTraits_subset (declaration : Declaration) : declaration.plainTraits ⊆ traits := by
  unfold plainTraits frontTraits backTraits
  split <;> split <;> decide

/-- Each of them is implemented once. -/
theorem nodup_plainTraits (declaration : Declaration) : declaration.plainTraits.Nodup := by
  unfold plainTraits frontTraits backTraits
  split <;> split <;> decide

/-- The implementations are those of conversions, and of the other traits by the wrapper. -/
theorem perm_headers (declaration : Declaration) :
    declaration.headers.Perm (declaration.conversionHeaders ++
      declaration.plainTraits.map declaration.wrapperHeader) := by
  rw [headers_eq, plainTraits, List.map_append, ← List.append_assoc]
  exact List.perm_append_comm.append_right _

/-- A header is one of a conversion or of a trait around the conversions. -/
theorem mem_headers_iff {header : Header} :
    header ∈ declaration.headers ↔ header ∈ declaration.conversionHeaders ∨
      ∃ names ∈ declaration.plainTraits, declaration.wrapperHeader names = header := by
  rw [declaration.perm_headers.mem_iff, List.mem_append, List.mem_map]

/-- A conversion is no trait beside conversions. -/
theorem ne_of_mem_conversionHeaders {names : List String} (hnames : names ∈ traits)
    {header : Header} (hheader : header ∈ declaration.conversionHeaders) :
    header ≠ declaration.wrapperHeader names := by
  rintro rfl
  exact not_converts_wrapperHeader hnames (converts_of_mem_conversionHeaders hheader)

/-- A trait is implemented by the wrapper if it is one of those around the conversions. -/
theorem wrapperHeader_mem_headers_iff {names : List String} (hnames : names ∈ traits) :
    declaration.wrapperHeader names ∈ declaration.headers ↔ names ∈ declaration.plainTraits := by
  rw [mem_headers_iff]
  constructor
  · rintro (hconversion | ⟨other, hother, hheader⟩)
    · exact absurd rfl (ne_of_mem_conversionHeaders hnames hconversion)
    · rwa [← wrapperHeader_inj (declaration.plainTraits_subset hother) hnames hheader]
  · exact fun h => .inr ⟨names, h, rfl⟩

/-- All other headers are those of conversions. -/
theorem mem_headers_of_converts {header : Header} (hheader : header.Converts) :
    header ∈ declaration.headers ↔ header ∈ declaration.conversionHeaders := by
  rw [mem_headers_iff]
  refine ⟨fun h => h.resolve_right ?_, .inl⟩
  rintro ⟨names, hnames, rfl⟩
  exact not_converts_wrapperHeader (declaration.plainTraits_subset hnames) hheader

/-- Conversions from two types are two traits. -/
theorem conversionInterface_inj {first second : List String}
    (h : declaration.conversionInterface first = declaration.conversionInterface second) :
    first = second := by
  unfold conversionInterface at h
  simpa using h

/-- The two directions are told apart by the wrapper. -/
theorem NamesApart.leaving_ne_entering (hnames : declaration.NamesApart) (slot : Slot)
    (type : List String) :
    declaration.leavingHeader type ≠ declaration.enteringHeader (declaration.slotWords slot) ∧
      declaration.leavingHeader (declaration.slotWords slot) ≠ declaration.enteringHeader type := by
  constructor
  · intro h
    have hinterface := conversionInterface_inj (congrArg Header.interface h)
    exact hnames.slotWords_ne slot hinterface.symm
  · intro h
    exact hnames.slotWords_ne slot (congrArg Header.target h)

/-- The wrapper is converted to the types of the slots, and to no others. -/
theorem NamesApart.leavingHeader_mem_iff (hnames : declaration.NamesApart) {target : List String} :
    declaration.leavingHeader target ∈ declaration.headers ↔
      target ∈ declaration.slots.map declaration.slotWords := by
  rw [mem_headers_of_converts (converts_leavingHeader target), mem_conversionHeaders_iff,
    List.mem_map]
  constructor
  · rintro ⟨slot, hslot, hleaving | hentering⟩
    · exact ⟨slot, hslot, (congrArg Header.target hleaving).symm⟩
    · exact absurd hentering (hnames.leaving_ne_entering slot target).1
  · rintro ⟨slot, hslot, rfl⟩
    exact ⟨slot, hslot, .inl rfl⟩

/-- The wrapper is converted from the types of the slots, and from no others. -/
theorem NamesApart.enteringHeader_mem_iff (hnames : declaration.NamesApart) {source : List String} :
    declaration.enteringHeader source ∈ declaration.headers ↔
      source ∈ declaration.slots.map declaration.slotWords := by
  rw [mem_headers_of_converts (converts_enteringHeader source), mem_conversionHeaders_iff,
    List.mem_map]
  constructor
  · rintro ⟨slot, hslot, hleaving | hentering⟩
    · exact absurd hleaving.symm (hnames.leaving_ne_entering slot source).2
    · have hinterface := congrArg Header.interface hentering
      exact ⟨slot, hslot, (conversionInterface_inj hinterface).symm⟩
  · rintro ⟨slot, hslot, rfl⟩
    exact ⟨slot, hslot, .inr rfl⟩

/-- Each conversion is implemented once. -/
theorem NamesApart.nodup_conversionHeaders (hnames : declaration.NamesApart) :
    declaration.conversionHeaders.Nodup := by
  refine List.nodup_flatMap.mpr ⟨fun slot _ => ?_, ?_⟩
  · have hne := (hnames.leaving_ne_entering slot (declaration.slotWords slot)).1
    simpa using hne
  · refine declaration.nodup_slots.pairwise_of_forall_ne fun first hfirst second hsecond hne => ?_
    have hwords : declaration.slotWords first ≠ declaration.slotWords second := fun h =>
      hne (hnames.slotWords_inj hfirst hsecond h)
    intro header hheader hagain
    simp only [List.mem_cons, List.not_mem_nil, or_false] at hheader hagain
    rcases hheader with rfl | rfl <;> rcases hagain with hagain | hagain
    · exact hwords (congrArg Header.target hagain)
    · exact (hnames.leaving_ne_entering second _).1 hagain
    · exact (hnames.leaving_ne_entering second _).2 hagain.symm
    · exact hwords (conversionInterface_inj (congrArg Header.interface hagain))

/-- No trait is implemented twice for one type. -/
theorem NamesApart.nodup_headers (hnames : declaration.NamesApart) : declaration.headers.Nodup := by
  have hplain : (declaration.plainTraits.map declaration.wrapperHeader).Nodup :=
    declaration.nodup_plainTraits.map_on fun _ hfirst _ hsecond h =>
      wrapperHeader_inj (declaration.plainTraits_subset hfirst)
        (declaration.plainTraits_subset hsecond) h
  rw [declaration.perm_headers.nodup_iff, List.nodup_append]
  refine ⟨hnames.nodup_conversionHeaders, hplain, fun header hheader other hother => ?_⟩
  obtain ⟨names, hmem, rfl⟩ := List.mem_map.mp hother
  exact ne_of_mem_conversionHeaders (declaration.plainTraits_subset hmem) hheader

/-! ### Strings -/

/-- The wrapper of a member is shown as the member's value in the slot for strings. -/
theorem Resolved.show?_eq {α : Type} (meaning : Interpretation α) (hresolved : declaration.Resolved)
    {index : Nat} (hslot : .value index .string ∈ declaration.slots) {wrapper : Wrapped}
    {member : Member} (hnamed : declaration.memberNamed? wrapper.variant = some member) :
    ∃ value, member.values[index]? = some value ∧ value.type = .string ∧
      declaration.show? meaning wrapper =
        some (.ok (.literal (meaning.denote (.value index .string) value.pattern))) := by
  have hmember : member ∈ declaration.members := List.mem_of_find?_eq_some hnamed
  have hname : member.ident.text = wrapper.variant := by simpa using List.find?_some hnamed
  obtain ⟨entry, hentry, value, rfl, hvalue, htype⟩ :=
    entry?_of_mem_slots hresolved.types hslot hmember
  refine ⟨value, hvalue, htype, ?_⟩
  have hstring : (declaration.types.getD []).any ValueType.isString = true :=
    ValueType.any_isString_iff.mpr (List.mem_of_getElem? (value_mem_slots_iff.mp hslot).1)
  have htokens : declaration.entryTokens (.value value) = value.pattern := by
    simp [entryTokens, Value.tokens, htype]
  have hleave : declaration.leave? meaning (.value index .string) wrapper =
      some (.ok (.literal (meaning.denote (.value index .string) value.pattern))) := by
    simp [hresolved.leave?_eq meaning hslot, hnamed, hentry, htokens, Interpretation.value?]
  have hclone : declaration.clone? meaning wrapper = some wrapper :=
    hresolved.clone?_member meaning hmember hname
  exact declaration.show?_of_leave? meaning hstring (declaration.find?_isString hslot) hclone hleave

/-- Strings are converted if they are a common type. -/
theorem string_mem_slotWords_iff :
    ValueType.string.words ∈ declaration.slots.map declaration.slotWords ↔
      .string ∈ declaration.types.getD [] := by
  rw [List.mem_map]
  constructor
  · rintro ⟨slot, hslot, hwords⟩
    rw [slotWords_eq] at hwords
    cases htype : declaration.valueType? slot with
    | none => simp [htype, ValueType.words] at hwords
    | some type =>
      simp only [htype] at hwords
      obtain rfl := ValueType.words_injective hwords
      cases slot with
      | value index type =>
        obtain rfl := Option.some.inj htype
        exact List.mem_of_getElem? (value_mem_slots_iff.mp hslot).1
      | _ => simp [valueType?] at htype
  · intro htype
    obtain ⟨index, hslot⟩ := exists_value_mem_slots htype
    exact ⟨_, hslot, declaration.slotWords_eq _⟩

/-- A wrapper is displayed if its values are strings in some position. -/
theorem display_mem_headers_iff :
    declaration.wrapperHeader ["fmt", "Display"] ∈ declaration.headers ↔
      .string ∈ declaration.types.getD [] := by
  have hfront : ["fmt", "Display"] ∉ declaration.frontTraits := by
    unfold frontTraits
    cases declaration.throwOnCastFailure <;> decide
  rw [wrapperHeader_mem_headers_iff (by decide), plainTraits, List.mem_append]
  simp [hfront, backTraits]

/-- What is shown is converted by the trait that is emitted for strings, at their first position. -/
theorem Resolved.display_of_mem_headers (hresolved : declaration.Resolved)
    (h : declaration.wrapperHeader ["fmt", "Display"] ∈ declaration.headers) :
    ∃ display conversion index, .value index .string ∈ declaration.slots ∧
      declaration.display? = some display ∧
      declaration.leaving? (.value index .string) = some conversion ∧
      display.call.fallible = conversion.fallible ∧
      display.call.target.words = ValueType.string.words ∧
      display.call.source = declaration.wrapper.text ∧
      ∀ {α : Type} (meaning : Interpretation α) (wrapper : Wrapped) (member : Member),
        declaration.memberNamed? wrapper.variant = some member →
        ∃ value, member.values[index]? = some value ∧ value.type = .string ∧
          declaration.show? meaning wrapper =
            some (.ok (.literal (meaning.denote (.value index .string) value.pattern))) := by
  have htype := display_mem_headers_iff.mp h
  obtain ⟨index, hslot⟩ := exists_value_mem_slots htype
  exact ⟨_, _, index, hslot, declaration.display?_eq (ValueType.any_isString_iff.mpr htype),
    declaration.leaving?_eq _, rfl, ValueType.string.words_output, rfl,
    fun meaning _ _ hnamed => hresolved.show?_eq meaning hslot hnamed⟩

/-! ### Default values -/

/-- A wrapper has a default value if its conversions do not fail. -/
theorem default_mem_headers_iff :
    declaration.wrapperHeader ["default", "Default"] ∈ declaration.headers ↔
      declaration.throwOnCastFailure = false := by
  have hback : ["default", "Default"] ∉ declaration.backTraits := by
    unfold backTraits
    split <;> decide
  rw [wrapperHeader_mem_headers_iff (by decide), plainTraits, List.mem_append]
  cases hthrow : declaration.throwOnCastFailure <;> simp [hback, frontTraits, hthrow]

/-- Where conversions may fail, nothing has a default value. -/
theorem interface_ne_default (hthrow : declaration.throwOnCastFailure = true) {header : Header}
    (hheader : header ∈ declaration.headers) :
    header.interface ≠ (core ["default", "Default"]).words := by
  intro hinterface
  rcases mem_headers_iff.mp hheader with hconversion | ⟨names, _, rfl⟩
  · have hconverts : header.interface[3]? = some "convert" :=
      converts_of_mem_conversionHeaders hconversion
    rw [hinterface] at hconverts
    exact absurd hconverts (by decide)
  · have hdefault : declaration.wrapperHeader names =
        declaration.wrapperHeader ["default", "Default"] := by
      simpa [wrapperHeader] using hinterface
    rw [hdefault, default_mem_headers_iff, hthrow] at hheader
    contradiction

/-! ### All implementations -/

/-- The implementations of a wrapper with a name of its own fit together. The types of the slots
differ, and so do all headers, up to lifetimes. There is a slot for the ordinal, if it is asked for
and no values have its type, for the enumeration, and for each common type at its first position, in
this order; the wrapper is converted to and from these types alone. It is shown exactly if it is
converted to and from strings, by the emitted conversion and as the string at the first position of
strings. It has a default value exactly if its conversions cannot fail; if they can, no
implementation is one of a default value or calls for one. -/
theorem implementations_of_resolve {host : Host} {item : EnumItem} {fullName : String}
    {options : Except Problem WrapperOptions}
    (hresolve : (resolve host item fullName options).2 = .ok declaration)
    (hnames : declaration.NamesApart) :
    ((declaration.slots.map declaration.slotWords).Nodup ∧ declaration.headers.Nodup) ∧
    ((∃ values, declaration.slots =
        (if declaration.convertOrdinal = true ∧
            ∀ type ∈ declaration.types.getD [], type.name ≠ declaration.repr.name then [.ordinal]
          else []) ++ .enumeration :: values ∧
        (values.Pairwise fun first second => first.position < second.position) ∧
        ∀ slot, slot ∈ values ↔ ∃ index type, slot = .value index type ∧
          (declaration.types.getD [])[index]? = some type ∧
          ∀ earlier < index, (declaration.types.getD [])[earlier]? ≠ some type) ∧
      ∀ type,
        (declaration.leavingHeader type ∈ declaration.headers ↔
          type ∈ declaration.slots.map declaration.slotWords) ∧
        (declaration.enteringHeader type ∈ declaration.headers ↔
          type ∈ declaration.slots.map declaration.slotWords)) ∧
    ((declaration.wrapperHeader ["fmt", "Display"] ∈ declaration.headers ↔
        declaration.leavingHeader ValueType.string.words ∈ declaration.headers ∧
        declaration.enteringHeader ValueType.string.words ∈ declaration.headers) ∧
      (declaration.wrapperHeader ["fmt", "Display"] ∈ declaration.headers →
        ∃ display conversion index, .value index .string ∈ declaration.slots ∧
          declaration.display? = some display ∧
          declaration.leaving? (.value index .string) = some conversion ∧
          display.call.fallible = conversion.fallible ∧
          display.call.target.words = ValueType.string.words ∧
          display.call.source = declaration.wrapper.text ∧
          ∀ {α : Type} (meaning : Interpretation α) (wrapper : Wrapped) (member : Member),
            declaration.memberNamed? wrapper.variant = some member →
            ∃ value, member.values[index]? = some value ∧ value.type = .string ∧
              declaration.show? meaning wrapper =
                some (.ok (.literal (meaning.denote (.value index .string) value.pattern))))) ∧
    ((declaration.wrapperHeader ["default", "Default"] ∈ declaration.headers ↔
        declaration.throwOnCastFailure = false) ∧
      (∀ slot, ∃ leaving entering, declaration.leaving? slot = some leaving ∧
        declaration.entering? slot = some entering ∧
        leaving.fallible = declaration.throwOnCastFailure ∧
        entering.fallible = declaration.throwOnCastFailure) ∧
      (declaration.throwOnCastFailure = true →
        (∀ header ∈ declaration.headers,
          header.interface ≠ (core ["default", "Default"]).words) ∧
        ∀ item ∈ declaration.items, item.isImplementation = true →
          TokenTree.callsAll "default" item.tokens = false)) := by
  have hresolved := Resolved.of_resolve hresolve
  -- Conversions stand for slots, so each part about headers is one about the words of slots.
  have hleaving (type : List String) : declaration.leavingHeader type ∈ declaration.headers ↔
      type ∈ declaration.slots.map declaration.slotWords := hnames.leavingHeader_mem_iff
  have hentering (type : List String) : declaration.enteringHeader type ∈ declaration.headers ↔
      type ∈ declaration.slots.map declaration.slotWords := hnames.enteringHeader_mem_iff
  refine ⟨⟨hnames.nodup_slotWords, hnames.nodup_headers⟩, ⟨?slots, ?conversions⟩,
    ⟨?display, hresolved.display_of_mem_headers⟩, default_mem_headers_iff, ?traits, ?default⟩
  case slots =>
    refine ⟨_, declaration.slots_eq, Slot.pairwise_position_ofTypes 0 [] _, fun slot => ?_⟩
    rw [Slot.mem_ofTypes_iff]
    simp
  case conversions => exact fun type => ⟨hleaving type, hentering type⟩
  case display =>
    rw [hleaving, hentering, and_self, string_mem_slotWords_iff, display_mem_headers_iff]
  case traits =>
    exact fun slot => ⟨_, _, declaration.leaving?_eq slot, declaration.entering?_eq slot, rfl, rfl⟩
  case default =>
    exact fun hthrow => ⟨fun _ hheader => interface_ne_default hthrow hheader,
      callsAll_implementations hthrow⟩

/-- Two strings around an integer of the type that represents the ordinals. -/
def repeatedItem : EnumItem :=
  .ofVariants "Signal" []
    [{ Variant.ofTexts "On" none none with
      attributes := [.ofTokens "value" (commas
        [[.literal "\"on\"" .nowhere], [.literal "1" .nowhere], [.literal "\"ON\"" .nowhere]])] }]

/-- The declaration that the enumeration is resolved to. -/
def repeated : Declaration where
  visibility := .inherited
  repr := .i32
  ident := .ofText "Signal"
  fullName := "Signal"
  wrapper := .ofText "Label"
  convertOrdinal := true
  throwOnCastFailure := true
  variants := [.ofText "On"]
  members := [⟨.ofText "On", 0, [⟨.string, false, ⟨"\"on\"", .nowhere⟩⟩,
    ⟨.integer .i32, false, ⟨"1", .nowhere⟩⟩, ⟨.string, false, ⟨"\"ON\"", .nowhere⟩⟩]⟩]
  types := some [.string, .integer .i32, .string]

/-- The integer stands for the ordinal too, and the first string for both. -/
theorem implementations_of_repeated :
    (resolve (.ofSchema .standard) repeatedItem "Signal"
        (.ok ⟨.ofText "Label", true, true⟩)).2 = .ok repeated ∧
      repeated.NamesApart ∧
      repeated.slots = [.enumeration, .value 0 .string, .value 1 (.integer .i32)] ∧
      repeated.headers.Nodup ∧ repeated.wrapperHeader ["fmt", "Display"] ∈ repeated.headers := by
  have hresolve : (resolve (.ofSchema .standard) repeatedItem "Signal"
      (.ok ⟨.ofText "Label", true, true⟩)).2 = .ok repeated := by rfl
  have hnames : repeated.NamesApart := ⟨by decide, by decide, by decide⟩
  have himplementations := implementations_of_resolve hresolve hnames
  obtain ⟨⟨_, hnodup⟩, ⟨_, hconverted⟩, ⟨hdisplay, _⟩, _⟩ := himplementations
  have hstring : ValueType.string.words ∈ repeated.slots.map repeated.slotWords := by decide
  exact ⟨hresolve, hnames, rfl, hnodup,
    hdisplay.mpr ⟨(hconverted _).1.mpr hstring, (hconverted _).2.mpr hstring⟩⟩

end Declaration

end ValuedEnum
