import ValuedEnum.Expansion
import ValuedEnum.Proofs.Spelling.Units
import ValuedEnum.Proofs.Stripping.Stages

/-!
# Units as they are read again

The code of a wrapper holds one heading in sight, the one of the type with the ordinals. So a unit
is laid out as `Layout` describes, and each item that is read from it is clean.
-/

namespace ValuedEnum

open TokenStream Code

/-! ### Code without headings -/

/-- Code that ends in braces, with no heading in front of them. -/
def TokenStream.Closed (tokens : TokenStream) : Prop :=
  ∃ front inner : TokenStream, front.Headless ∧ tokens = front ++ braced inner

namespace TokenStream

variable {front back : TokenStream}

/-- An operator is no heading, unless it starts a lifetime. -/
theorem headless_sign {text : String} (h : '\x27' ∉ text.toList) : Headless (sign text) :=
  headless_signs h _

/-- A word that is no heading has none in it. -/
theorem headless_word {text : String} (h : Ident.isHeading ⟨text, .nowhere⟩ = false) :
    Headless (word text) :=
  .word h .nil

/-- What stands in braces is out of sight. -/
theorem headless_braced (inner : TokenStream) : Headless (braced inner) := .group (by decide) .nil

/-- What stands in parentheses is out of sight. -/
theorem headless_parenthesized (inner : TokenStream) : Headless (parenthesized inner) :=
  .group (by decide) .nil

/-- A path has no heading if none of its words is one. -/
theorem headless_path {names : List String}
    (h : ∀ text ∈ names, Ident.isHeading ⟨text, .nowhere⟩ = false) : Headless (path names) := by
  fun_induction path names with
  | case1 => exact .nil
  | case2 name => exact headless_word (h name List.mem_cons_self)
  | case3 name rest _ ih =>
    obtain ⟨hname, hrest⟩ := List.forall_mem_cons.mp h
    exact ((headless_word hname).append (headless_sign (by decide))).append (ih hrest)

/-- Closed code holds no heading. -/
theorem Closed.headless (h : front.Closed) : front.Headless := by
  obtain ⟨front, inner, hfront, rfl⟩ := h
  exact hfront.append (headless_braced inner)

/-- Code without headings may stand in front of closed code. -/
theorem Headless.closed_append (h : front.Headless) (hback : back.Closed) :
    Closed (front ++ back) := by
  obtain ⟨between, inner, hbetween, rfl⟩ := hback
  exact ⟨front ++ between, inner, h.append hbetween, by simp⟩

end TokenStream

namespace Code

/-- A name that is no heading has none in it. -/
theorem headless_name {ident : Ident} (h : ident.isHeading = false) : Headless (name ident) :=
  .word h .nil

/-- The attribute that allows a lint holds no heading in sight. -/
theorem headless_allow (lint : String) : Headless (allow lint) :=
  (headless_sign (by decide)).append (.group (by decide) .nil)

end Code

namespace CodeItem

variable {interface target : TokenStream}

/-- The functions of a type are closed code, if the type holds no heading. -/
theorem closed_inherent (htarget : target.Headless) (body : TokenStream) :
    Closed (inherent target body).tokens := by
  refine ⟨_, body, ?_, rfl⟩
  exact ((headless_allow _).append (headless_word (by decide))).append htarget

/-- An implementation is closed code, if its trait and its type hold no heading. -/
theorem closed_implementation (borrows : Bool) (hinterface : interface.Headless)
    (htarget : target.Headless) (body : TokenStream) :
    Closed (implementation borrows interface target body).tokens := by
  have hlifetimes : Headless (if borrows then angled (lifetime "a") else []) := by
    split
    · exact headless_angled (.lifetime .nil)
    · exact .nil
  refine ⟨_, body, ?_, rfl⟩
  exact ((((headless_word (by decide)).append hlifetimes).append hinterface).append
    (headless_word (by decide))).append htarget

end CodeItem

namespace ValueType

/-- The type of a value holds no heading. -/
theorem headless_tokens (type : ValueType) (lifetime : String) :
    Headless (type.tokens lifetime) := by
  have hborrowed {target : TokenStream} (h : target.Headless) :
      (borrowed lifetime target).Headless :=
    ((headless_sign (by decide)).append (.lifetime .nil)).append h
  cases type with
  | string => exact hborrowed (headless_word (by decide))
  | byteString => exact hborrowed (.group (by decide) .nil)
  | integer type => cases type <;> exact headless_word (by decide)
  | float type => cases type <;> exact headless_word (by decide)
  | _ => exact headless_word (by decide)

end ValueType

namespace Visibility

/-- A visibility is made of words that modify an item, and of what stands in parentheses. -/
theorem modifies_tokens (visibility : Visibility) : ∀ tree ∈ visibility.tokens, tree.Modifies := by
  have hpub : Ident.isHeading ⟨"pub", .nowhere⟩ = false := by decide
  cases visibility with
  | inherited => simp [tokens]
  | anywhere => simpa [tokens, word, TokenTree.Modifies] using hpub
  | inside marked path => simpa [tokens, word, parenthesized, TokenTree.Modifies] using hpub

end Visibility

/-- What modifies an item is no heading. -/
theorem TokenStream.headless_of_modifies {tokens : TokenStream}
    (h : ∀ tree ∈ tokens, tree.Modifies) : tokens.Headless := by
  induction tokens with
  | nil => exact .nil
  | cons tree rest ih =>
    obtain ⟨htree, hrest⟩ := List.forall_mem_cons.mp h
    cases tree with
    | ident name => exact .word htree (ih hrest)
    | group delimiter inner span =>
      obtain rfl : delimiter = .parenthesis := htree
      exact .group (by decide) (ih hrest)
    | _ => simp [TokenTree.Modifies] at htree

/-! ### Code of a wrapper -/

namespace Declaration

variable {declaration : Declaration}

/-- The visibility of a declaration holds no heading. -/
theorem headless_vis : declaration.vis.Headless :=
  headless_of_modifies declaration.visibility.modifies_tokens

/-- The name of the type with the ordinals is no heading. -/
theorem headless_ordinalsName : declaration.ordinalsName.Headless := by
  have hne (heading : String) (h : heading.length < 8) :
      declaration.wrapper.bare ++ "Ordinals" ≠ heading := by
    rintro rfl
    have hordinals : "Ordinals".length = 8 := rfl
    rw [String.length_append] at h
    omega
  have henum := hne "enum" (by decide)
  have hmod := hne "mod" (by decide)
  exact headless_word (by simp [Ident.isHeading, henum, hmod])

/-- The items in front of the type with the ordinals. -/
def typeItems (declaration : Declaration) : List CodeItem :=
  declaration.wrapperType :: declaration.wrapperBody :: declaration.defaultItems

/-- The items behind the type with the ordinals. -/
def traitItems (declaration : Declaration) : List CodeItem :=
  declaration.ordinalsBody :: declaration.equalityItems ++
    declaration.cloneItem :: declaration.debugItem ::
    declaration.conversions.flatMap declaration.conversionItems ++ declaration.displayItems

/-- The items of a declaration, with the type of the ordinals in sight. -/
theorem items_eq (declaration : Declaration) : declaration.items =
    declaration.typeItems ++ declaration.ordinalsType :: declaration.traitItems := by
  simp [items, typeItems, traitItems]

section Names

variable (hident : declaration.ident.isHeading = false)
  (hwrapper : declaration.wrapper.isHeading = false)

include hwrapper in
/-- An implementation for the wrapper is closed code. -/
theorem closed_implement {interface : TokenStream} (hinterface : interface.Headless)
    (body : TokenStream) : Closed (declaration.implement interface body).tokens :=
  CodeItem.closed_implementation false hinterface (headless_name hwrapper) body

include hident in
/-- The type that a slot is converted to holds no heading. -/
theorem headless_outputType (slot : Slot) : (declaration.outputType slot).Headless := by
  cases slot with
  | ordinal => exact headless_word (by cases declaration.repr <;> decide)
  | enumeration => exact headless_name hident
  | value index type => exact type.headless_tokens _

include hident in
/-- The type that a slot is converted from holds no heading. -/
theorem headless_inputType (slot : Slot) : (declaration.inputType slot).Headless := by
  cases slot with
  | ordinal => exact headless_word (by cases declaration.repr <;> decide)
  | enumeration => exact headless_name hident
  | value index type => exact type.headless_tokens _

/-- A conversion is closed code. -/
theorem closed_conversionItem (borrows : Bool) {source target : TokenStream}
    (hsource : source.Headless) (htarget : target.Headless) (input : TokenStream)
    (arms : List Arm) :
    Closed (declaration.conversionItem borrows source target input arms).tokens := by
  refine CodeItem.closed_implementation borrows (.append ?_ (headless_angled hsource)) htarget _
  refine headless_path ?_
  split <;> decide

include hident hwrapper

/-- Both directions of a conversion are closed code. -/
theorem closed_conversionItems (conversion : Conversion) :
    ∀ item ∈ declaration.conversionItems conversion, Closed item.tokens := by
  have houtput := headless_outputType hident conversion.slot
  have hinput := headless_inputType hident conversion.slot
  have hname := headless_name hwrapper
  simpa [conversionItems] using ⟨closed_conversionItem _ hname houtput _ _,
    closed_conversionItem _ hinput hname _ _⟩

/-- No heading is in sight behind the type with the ordinals. -/
theorem closed_traitItems : ∀ item ∈ declaration.traitItems, Closed item.tokens := by
  have hcore {names : List String} {body : TokenStream}
      (h : ∀ text ∈ "core" :: names, Ident.isHeading ⟨text, .nowhere⟩ = false) :
      Closed (declaration.implement (core names) body).tokens :=
    closed_implement hwrapper (headless_path h) body
  have hordinals : Closed declaration.ordinalsBody.tokens :=
    CodeItem.closed_inherent headless_ordinalsName _
  have hequality : ∀ item ∈ declaration.equalityItems, Closed item.tokens := by
    simpa [equalityItems] using ⟨hcore (by decide), hcore (by decide), hcore (by decide)⟩
  have hconversions : ∀ item ∈ declaration.conversions.flatMap declaration.conversionItems,
      Closed item.tokens := by
    intro item hitem
    obtain ⟨conversion, -, hitem⟩ := List.mem_flatMap.mp hitem
    exact closed_conversionItems hident hwrapper conversion item hitem
  have hdisplay : ∀ item ∈ declaration.displayItems, Closed item.tokens := by
    unfold displayItems
    extract_lets converting copy
    split
    · simpa using hcore (by decide)
    · simp
  have hclone : Closed declaration.cloneItem.tokens := hcore (by decide)
  have hdebug : Closed declaration.debugItem.tokens := hcore (by decide)
  simp only [traitItems, List.cons_append, List.forall_mem_cons, List.forall_mem_append]
  exact ⟨hordinals, ⟨hequality, hclone, hdebug, hconversions⟩, hdisplay⟩

omit hident in
/-- Braces end the items in front of the type with the ordinals. -/
theorem closed_typeItems : Closed (declaration.typeItems.flatMap CodeItem.tokens) := by
  have htype : Headless declaration.wrapperType.tokens :=
    (((headless_vis.append (headless_word (by decide))).append (headless_name hwrapper)).append
      (headless_parenthesized _)).append (headless_sign (by decide))
  have hbody : Closed declaration.wrapperBody.tokens :=
    CodeItem.closed_inherent (headless_name hwrapper) _
  unfold typeItems defaultItems
  split
  · simpa using htype.closed_append hbody
  · have hinterface : Headless (core ["default", "Default"]) := headless_path (by decide)
    have hdefault := closed_implement hwrapper hinterface
      (alwaysInline ++ function (word "default") [] (word "Self") (call (word "Self") preset))
    simpa using (htype.append hbody.headless).closed_append hdefault

end Names

end Declaration

/-! ### Names of wrappers -/

namespace WrapperOptions

open ValuedEnum.Parser

/-- The text that names a wrapper is a name. -/
theorem isName_of_nameOf {lit : Lit} {content suffix : List Char} {ident : Ident}
    (h : nameOf lit content suffix = .ok ident) : ident.isName = true := by
  obtain ⟨-, word, -, hname, rfl⟩ := nameOf_eq_ok_iff.mp h
  exact hname

/-- What is read as the name of a wrapper is a name. -/
theorem tells_nameParser : nameParser.Tells fun ident => ident.isName = true := by
  unfold nameParser
  refine .of_next fun seen => tells_ite (.of_next fun lit => ?_) tells_name
  split
  · rename_i content suffix _
    cases hname : nameOf lit content suffix with
    | error problem => exact (fails_throw problem).tells _
    | ok ident => exact tells_pure (isName_of_nameOf hname)
  · exact (fails_expected _).tells _

/-- The name that options give to a wrapper is not reserved. -/
theorem isName_of_ofTokens {scope : Scope} {tokens : TokenStream} {options : WrapperOptions}
    (h : ofTokens scope tokens = .ok options) : options.name.isName = true := by
  have hparser : parser.Tells fun options => options.name.isName = true := by
    unfold parser
    refine .of_next fun ended => ?_
    extract_lets read
    have hread (start : Unit) : (read start).Tells fun options => options.name.isName = true :=
      tells_nameParser.bind fun name hname => .of_next fun rest => .of_next fun flags =>
        tells_pure hname
    exact tells_ite (.of_next fun place => .of_next fun start => hread start) (hread ())
  exact hparser.of_run h

end WrapperOptions

/-- The wrapper that an attribute asks for has a name. -/
theorem Host.isName_of_wrapperOptions {schema : Schema} {item : EnumItem}
    {options : WrapperOptions}
    (h : (ofSchema schema).wrapperOptions item = .ok (some (.ok options))) :
    options.name.isName = true := by
  obtain ⟨attr, -, hread⟩ : ∃ attr, item.attributes.find? schema.isWrapper = some attr ∧
      attributeArguments attr WrapperOptions.ofTokens = .ok options := by
    simpa [ofSchema] using h
  unfold attributeArguments at hread
  split at hread
  · simp at hread
  · simp at hread
  · exact WrapperOptions.isName_of_ofTokens hread

/-! ### Units -/

/-- An enumeration in front of the code of its wrapper is laid out as a unit. -/
theorem Declaration.exists_layout {item : EnumItem} (hitem : item.Parsed)
    (declaration : Declaration) (hvisibility : declaration.visibility = item.visibility)
    (hident : declaration.ident.isHeading = false)
    (hwrapper : declaration.wrapper.isHeading = false) :
    ∃ layout : Layout, item.tokens ++ declaration.tokens =
      item.attributes.flatMap Attribute.tokens ++ layout.tokens := by
  obtain ⟨front, inner, hfront, htypes⟩ := closed_typeItems hwrapper
  have hbody : Headless (.ident item.ident :: item.generics ++ item.constraints ++
      [.group .brace (EnumItem.variantTokens item.trailing item.variants) item.braces] ++ front) :=
    (((TokenStream.Headless.word (Ident.not_isHeading_of_isName hitem.ident)
      hitem.generics).append hitem.constraints).append (.group (by decide) .nil)).append hfront
  have htail : Headless (declaration.ordinalsName ++ braced [] ++
      declaration.traitItems.flatMap CodeItem.tokens) :=
    (headless_ordinalsName.append (headless_braced [])).append
      (.flatMap fun item hitem => (closed_traitItems hident hwrapper item hitem).headless)
  -- The unit is the enumeration and the code. The first heading is that of the enumeration, and the
  -- braces in the middle are the last ones of the items in front of the second heading.
  refine ⟨{
    modifiers := item.visibility.tokens
    first := ⟨"enum", .nowhere⟩
    body := _
    inner := inner
    braces := .nowhere
    second := ⟨"enum", .nowhere⟩
    tail := _
    modifies := item.visibility.modifies_tokens
    first_eq := rfl
    body_headless := hbody
    second_eq := rfl
    tail_headless := htail }, ?_⟩
  simp [Layout.tokens, Layout.behindFirst, Layout.behindBody, EnumItem.tokens, Declaration.tokens,
    items_eq, htypes, ordinalsType, CodeItem.tokens, vis, hvisibility, word, braced]

/-- A stripped enumeration is one that a reader could return, if the enumeration is. -/
theorem EnumItem.Parsed.strip {item : EnumItem} (h : item.Parsed) (schema : Schema) :
    (schema.strip item).Parsed where
  attributes := fun attr hattr => h.attributes attr (List.mem_filter.mp hattr).1
  ident := h.ident
  generics := h.generics
  constraints := h.constraints

/-- What is read from a unit is clean. -/
theorem Found.clean_of_unit {schema : Schema} {entry : Declared} {found : Found}
    {unit : SourceUnit} (hentry : entry.item.Parsed)
    (hanswer : entry.found? (.ofSchema schema) = some found)
    (houtcome : found.outcome (.ofSchema schema) = .ok unit) {again : SourceFile}
    (h : Grammar.file unit.tokens = .ok again) : ∀ item ∈ again, item.Clean schema := by
  unfold Declared.found? at hanswer
  split at hanswer
  case h_2 => simp at hanswer
  rename_i options hoptions
  obtain rfl : ⟨entry.fullName, entry.item, options⟩ = found := by simpa using hanswer
  obtain ⟨wrapper, repr, members, rfl, rfl⟩ := exists_of_outcome houtcome
  have hwrapper := Ident.not_isHeading_of_isName (Host.isName_of_wrapperOptions hoptions)
  obtain ⟨layout, htokens⟩ := Declaration.exists_layout (hentry.strip schema)
    (.ofResolution entry.item entry.fullName wrapper repr members) rfl
    (Ident.not_isHeading_of_isName hentry.ident) hwrapper
  have hstripped : ∀ attr ∈ (schema.strip entry.item).attributes,
      schema.isWrapper attr = false := by
    simp [Schema.strip]
  have hfile : Grammar.file ((schema.strip entry.item).attributes.flatMap Attribute.tokens ++
      layout.tokens) = .ok again := htokens ▸ h
  exact Grammar.clean_of_file (hentry.strip schema).attributes hstripped hfile

/-- Among clean items nothing is found. -/
theorem Item.foundAll_of_clean {schema : Schema} {items : List Item}
    (h : ∀ item ∈ items, item.Clean schema) (modules : List String) :
    foundAll (.ofSchema schema) modules items = .ok [] := by
  induction items with
  | nil => rfl
  | cons item rest ih =>
    obtain ⟨hitem, hrest⟩ := List.forall_mem_cons.mp h
    have hfirst : found (.ofSchema schema) modules item = .ok [] := by
      cases hitem with
      | other => rfl
      | enumeration hnone =>
        have hfind := List.find?_eq_none.mpr fun attr hattr => by simpa using hnone attr hattr
        simp [found, Host.ofSchema, hfind]
    rw [foundAll, hfirst, ih hrest]
    rfl

/-- The files that wrappers are generated for: those that are read, and an enumeration that is read
alone and gets the attribute it is expanded for. -/
inductive SourceFile.Given : SourceFile → Prop
  | read {tokens : TokenStream} {file : SourceFile} (h : Grammar.file tokens = .ok file) :
      Given file
  | expanded {tokens : TokenStream} {item : EnumItem}
      (h : Grammar.enumeration .whole tokens = .ok item) (arguments : TokenStream) :
      Given [.enumeration (Expansion.annotated arguments item)]

/-- An enumeration that is read alone is as a reader returns it. -/
theorem Grammar.parsed_of_enumeration {tokens : TokenStream} {item : EnumItem}
    (h : Grammar.enumeration .whole tokens = .ok item) : item.Parsed := by
  have hread (rules : Rules) [rules.Keep] :
      Parser.Tells (do ItemRule.enumeration rules (← Attribute.outerAll rules)) EnumItem.Parsed :=
    (Attribute.tells_outerAll rules).bind fun _ hattributes =>
      ItemRule.tells_enumeration rules hattributes
  exact (hread (Grammar.rules _ _)).of_run h

/-- All enumerations of a given file are as a reader returns them. -/
theorem SourceFile.Given.parsed {file : SourceFile} (h : file.Given) :
    ∀ entry ∈ Item.declaredAll [] file, entry.item.Parsed := by
  cases h with
  | read h => exact Grammar.parsed_of_file h
  | expanded h arguments =>
    obtain ⟨hattributes, hident, hgenerics, hconstraints⟩ := Grammar.parsed_of_enumeration h
    have hwrapper : (Expansion.wrapperAttribute arguments).Parsed :=
      ⟨fun _ => rfl, fun _ _ => by simp [Expansion.wrapperAttribute]⟩
    refine Item.declares_declaredAll (List.forall_mem_singleton.mpr ?_) []
    refine Item.declares_enumeration ?_
    exact ⟨List.forall_mem_cons.mpr ⟨hwrapper, hattributes⟩, hident, hgenerics, hconstraints⟩

/-- No enumeration is found in the unit of a file that was given. -/
theorem Host.found_of_unit {schema : Schema} {file : SourceFile} (hfile : file.Given)
    {generation : Generation} (h : (ofSchema schema).generate file = .ok generation)
    {unit : SourceUnit} (hunit : unit ∈ generation.units) {again : SourceFile}
    (hagain : Grammar.file unit.tokens = .ok again) : (ofSchema schema).found again = .ok [] := by
  obtain ⟨entry, hentry, found, hanswer, houtcome⟩ := exists_found_of_mem_units h hunit
  have hclean := Found.clean_of_unit (hfile.parsed entry hentry) hanswer houtcome hagain
  exact Item.foundAll_of_clean hclean []

end ValuedEnum
