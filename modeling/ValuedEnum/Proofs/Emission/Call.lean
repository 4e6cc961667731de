import ValuedEnum.Wrapper.Code

/-!
# Calls in emitted code

A function is called by its name in front of parentheses, at any depth. This file proves that the
implementations of a wrapper whose conversions may fail call no function named `default`: they get
by without default values, whatever names the declaration has.
-/

namespace ValuedEnum

open TokenStream Code

namespace TokenTree

/-- Whether a tree is a word, perhaps with the mark of a raw identifier. -/
def isNamed (name : String) : TokenTree → Bool
  | ident word => word.bare = name
  | _ => false

/-- Whether a tree holds arguments. -/
def isParenthesized : TokenTree → Bool
  | group .parenthesis _ _ => true
  | _ => false

/-- Whether a tree has trees inside. -/
def isGroup : TokenTree → Bool
  | group .. => true
  | _ => false

mutual

/-- Whether a function is called inside of a tree. -/
def calls (name : String) : TokenTree → Bool
  | group _ inner _ => callsAll name inner
  | _ => false

/-- Whether a function is called in some trees, at any depth. -/
def callsAll (name : String) : List TokenTree → Bool
  | [] => false
  | tree :: rest =>
    tree.calls name || (tree.isNamed name && rest.head?.any isParenthesized) || callsAll name rest

end

/-- The default value of any type is the result of such a call. -/
example : callsAll "default" preset = true := rfl

/-- A call stands in one of two parts, or across the border. -/
theorem callsAll_append (name : String) (front back : List TokenTree) :
    callsAll name (front ++ back) =
      (callsAll name front || callsAll name back ||
        (front.getLast?.any (isNamed name) && back.head?.any isParenthesized)) := by
  induction front with
  | nil => simp [callsAll]
  | cons tree rest ih =>
    cases rest with
    | nil => simp [callsAll, Bool.or_assoc, Bool.or_comm, Bool.or_left_comm]
    | cons next rest =>
      simp only [List.cons_append, callsAll, List.head?_cons, List.getLast?_cons_cons] at ih ⊢
      simp only [ih, Bool.or_assoc]

end TokenTree

namespace TokenStream

open TokenTree

/-- Tokens that ask for no default value, neither by themselves nor behind a word. -/
structure PresetFree (tokens : TokenStream) : Prop where
  calls : callsAll "default" tokens = false
  front : tokens.head?.any isParenthesized = false

/-- No call appears across the border of two such parts, because the second one does not start with
parentheses. -/
theorem PresetFree.append {front back : TokenStream} (hfront : front.PresetFree)
    (hback : back.PresetFree) : (front ++ back).PresetFree where
  calls := by simp [callsAll_append, hfront.calls, hback.calls, hback.front]
  front := by
    cases front with
    | nil => exact hback.front
    | cons tree rest => exact hfront.front

/-- Parts that ask for no default value ask for none in a row. -/
theorem PresetFree.flatMap {α : Type} {parts : List α} {tokens : α → TokenStream}
    (h : ∀ part ∈ parts, (tokens part).PresetFree) : PresetFree (parts.flatMap tokens) := by
  induction parts with
  | nil => exact ⟨rfl, rfl⟩
  | cons part rest ih =>
    obtain ⟨hpart, hrest⟩ := List.forall_mem_cons.mp h
    exact hpart.append (ih hrest)

/-- Without groups there are no calls. -/
theorem presetFree_of_isGroup {tokens : TokenStream} (h : ∀ tree ∈ tokens, tree.isGroup = false) :
    tokens.PresetFree := by
  induction tokens with
  | nil => exact ⟨rfl, rfl⟩
  | cons tree rest ih =>
    obtain ⟨htree, hrest⟩ := List.forall_mem_cons.mp h
    have hcalls : tree.calls "default" = false := by
      cases tree <;> simp_all [TokenTree.calls, isGroup]
    have hfront : tree.isParenthesized = false := by
      cases tree <;> simp_all [isParenthesized, isGroup]
    exact ⟨by simp [callsAll, hcalls, (ih hrest).calls, (ih hrest).front], by simp [hfront]⟩

/-- A single word calls nothing. -/
theorem presetFree_word (text : String) : (word text).PresetFree := ⟨by simp [word, callsAll,
  TokenTree.calls], rfl⟩

/-- An identifier calls nothing. -/
theorem presetFree_name (ident : Ident) : (name ident).PresetFree := ⟨by simp [name, callsAll,
  TokenTree.calls], rfl⟩

/-- An operator calls nothing, whatever its signs are. -/
theorem presetFree_signs (span : Span) (chars : List Char) : (signs span chars).PresetFree := by
  refine presetFree_of_isGroup ?_
  induction chars with
  | nil => simp [signs]
  | cons first rest ih =>
    cases rest with
    | nil => simp [signs, isGroup]
    | cons second rest => exact List.forall_mem_cons.mpr ⟨rfl, ih⟩

/-- An operator that is given as a text calls nothing. -/
theorem presetFree_sign (text : String) : (sign text).PresetFree := presetFree_signs _ _

/-- Braces hide the front of their content, so only the calls inside of them count. -/
theorem presetFree_braced {tokens : TokenStream} (h : callsAll "default" tokens = false) :
    (braced tokens).PresetFree := ⟨by simp [braced, callsAll, TokenTree.calls, h], rfl⟩

/-- Arguments stand behind something that is not named `default`. -/
theorem PresetFree.parenthesized {front inner : TokenStream} (hfront : front.PresetFree)
    {tree : TokenTree} (hlast : front.getLast? = some tree) (htree : tree.isNamed "default" = false)
    (hinner : callsAll "default" inner = false) : (front ++ parenthesized inner).PresetFree where
  calls := by
    simp [callsAll_append, hfront.calls, hlast, htree, TokenStream.parenthesized, callsAll,
      TokenTree.calls, hinner]
  front := by
    cases front with
    | nil => simp at hlast
    | cons tree rest => exact hfront.front

end TokenStream

/-! ### Parts of emitted code -/

namespace Code

/-- A path into the core library calls nothing by itself. -/
theorem presetFree_core (names : List String) : (core names).PresetFree := by
  suffices h : ∀ all : List String, (path all).PresetFree from h _
  intro all
  induction all with
  | nil => exact ⟨rfl, rfl⟩
  | cons first rest ih =>
    cases rest with
    | nil => exact presetFree_word first
    | cons second rest => exact ((presetFree_word first).append (presetFree_sign "::")).append ih

/-- The attribute of a function that is always inlined asks for no default value. -/
theorem presetFree_alwaysInline : alwaysInline.PresetFree := ⟨rfl, rfl⟩

/-- The parameter `self` asks for no default value. -/
theorem presetFree_receiver : receiver.PresetFree := ⟨rfl, rfl⟩

/-- The field of a wrapper is read without a call. -/
theorem presetFree_wrapped (value : String) : (wrapped value).PresetFree :=
  ((presetFree_word value).append (presetFree_sign ".")).append ⟨rfl, rfl⟩

/-- A match calls what its input and its arms call. -/
theorem presetFree_matching {input arms : TokenStream} (hinput : input.PresetFree)
    (harms : arms.PresetFree) : (matching input arms).PresetFree :=
  ((presetFree_word "match").append hinput).append (presetFree_braced harms.calls)

/-- Commas between some parts add no call. -/
theorem presetFree_commas {parts : List TokenStream} (h : ∀ part ∈ parts, part.PresetFree) :
    (commas parts).PresetFree := by
  induction parts with
  | nil => exact ⟨rfl, rfl⟩
  | cons part rest ih =>
    obtain ⟨hpart, hrest⟩ := List.forall_mem_cons.mp h
    cases rest with
    | nil => exact hpart
    | cons next rest => exact (hpart.append (presetFree_sign ",")).append (ih hrest)

/-- A function may have any name but `default`. -/
theorem presetFree_function {text : String}
    (htext : (TokenTree.ident ⟨text, .nowhere⟩).isNamed "default" = false)
    {parameters result body : TokenStream} (hparameters : parameters.PresetFree)
    (hresult : result.PresetFree) (hbody : body.PresetFree) :
    (function (word text) parameters result body).PresetFree := by
  have hname := (presetFree_word "fn").append (presetFree_word text)
  have hfront := hname.parenthesized rfl htext hparameters.calls
  exact ((hfront.append (presetFree_sign "->")).append hresult).append
    (presetFree_braced hbody.calls)

/-- A result in `Ok` is a call, but of another function. -/
theorem presetFree_accepted {result : TokenStream} (h : result.PresetFree) :
    (accepted result).PresetFree :=
  (presetFree_core ["result", "Result", "Ok"]).parenthesized rfl rfl h.calls

/-- A result in `Err` is a call, but of another function. -/
theorem presetFree_refused {result : TokenStream} (h : result.PresetFree) :
    (refused result).PresetFree :=
  (presetFree_core ["result", "Result", "Err"]).parenthesized rfl rfl h.calls

end Code

/-! ### Items -/

namespace CodeItem

/-- Whether an item implements a trait, or holds the functions of a type. -/
def isImplementation : CodeItem → Bool
  | type _ => false
  | _ => true

/-- The functions of a type call what their bodies call. -/
theorem presetFree_inherent {target body : TokenStream} (htarget : target.PresetFree)
    (hbody : body.PresetFree) : (inherent target body).tokens.PresetFree := by
  have hallow : (allow "non_upper_case_globals").PresetFree := ⟨rfl, rfl⟩
  exact ((hallow.append (presetFree_word "impl")).append htarget).append
    (presetFree_braced hbody.calls)

/-- The header of an implementation adds no call to those of its body. -/
theorem presetFree_implementation {borrows : Bool} {interface target body : TokenStream}
    (hinterface : interface.PresetFree) (htarget : target.PresetFree) (hbody : body.PresetFree) :
    (implementation borrows interface target body).tokens.PresetFree := by
  have hborrows : PresetFree (if borrows then angled (lifetime "a") else []) := by
    cases borrows <;> exact ⟨rfl, rfl⟩
  have hfront := ((presetFree_word "impl").append hborrows).append hinterface
  exact ((hfront.append (presetFree_word "for")).append htarget).append
    (presetFree_braced hbody.calls)

end CodeItem

namespace Declaration

/-- The call that writes a text is one of `write_str`. -/
theorem presetFree_writeStr {text : TokenStream} (h : text.PresetFree) :
    (writeStr text).PresetFree := by
  have hmethod := ((presetFree_word "f").append (presetFree_sign ".")).append
    (presetFree_word "write_str")
  exact hmethod.parenthesized rfl rfl h.calls

/-- The function `fmt` calls what its body calls. -/
theorem presetFree_formatting {body : TokenStream} (h : body.PresetFree) :
    (formatting body).PresetFree :=
  presetFree_function rfl ⟨rfl, rfl⟩ (presetFree_core ["fmt", "Result"]) h

variable (declaration : Declaration)

/-- A variant is named by a path, so nothing is called. -/
theorem presetFree_variantTokens (ident : Ident) : (declaration.variantTokens ident).PresetFree :=
  ((presetFree_name declaration.ident).append (presetFree_sign "::")).append (presetFree_name ident)

/-- A path calls nothing, with or without colons in front of it. -/
theorem presetFree_pathTokens (path : Path) : path.tokens.PresetFree := by
  have hrest (idents : List Ident) : (Path.restTokens idents).PresetFree := by
    induction idents with
    | nil => exact ⟨rfl, rfl⟩
    | cons ident rest ih =>
      exact (presetFree_signs .nowhere [':', ':']).append ((presetFree_name ident).append ih)
  have hleading : PresetFree ((path.leading.map Path.colons).getD []) := by
    cases path.leading with
    | none => exact ⟨rfl, rfl⟩
    | some span => exact presetFree_signs span [':', ':']
  exact hleading.append ((presetFree_name path.first).append (hrest path.rest))

/-- A visibility calls nothing, because its parentheses stand behind `pub`. -/
theorem presetFree_visibility (visibility : Visibility) : visibility.tokens.PresetFree := by
  cases visibility with
  | inherited => exact ⟨rfl, rfl⟩
  | anywhere => exact presetFree_word "pub"
  | inside marked path =>
    have hmarked : PresetFree (if marked then word "in" else []) := by
      cases marked <;> exact ⟨rfl, rfl⟩
    have hinner := hmarked.append (presetFree_pathTokens path)
    exact (presetFree_word "pub").parenthesized rfl rfl hinner.calls

/-- A wrapper is made of a variant. -/
theorem presetFree_construction (ident : Ident) :
    (call (word "Self") (declaration.variantTokens ident)).PresetFree :=
  (presetFree_word "Self").parenthesized rfl rfl (declaration.presetFree_variantTokens ident).calls

/-- The constants and the accessor of a wrapper ask for no default value. -/
theorem presetFree_wrapperBody : declaration.wrapperBody.tokens.PresetFree := by
  have hvis := presetFree_visibility declaration.visibility
  have hconstants : PresetFree (declaration.members.flatMap declaration.wrapperConstant) := by
    refine PresetFree.flatMap fun member _ => ?_
    have hname := (hvis.append (presetFree_word "const")).append (presetFree_name member.ident)
    have htype := (hname.append (presetFree_sign ":")).append (presetFree_word "Self")
    exact ((htype.append (presetFree_sign "=")).append
      (declaration.presetFree_construction member.ident)).append (presetFree_sign ";")
  have hdocumented : (documented " Returns the wrapped enumeration variant.").PresetFree :=
    ⟨rfl, rfl⟩
  have haccessor : (function (word "as_enum") receiver (sign "&" ++ name declaration.ident)
      (sign "&" ++ wrapped "self")).PresetFree :=
    presetFree_function rfl presetFree_receiver
      ((presetFree_sign "&").append (presetFree_name declaration.ident))
      ((presetFree_sign "&").append (presetFree_wrapped "self"))
  exact CodeItem.presetFree_inherent (presetFree_name _)
    (((((hconstants.append hdocumented).append presetFree_alwaysInline).append hvis).append
      (presetFree_word "const")).append haccessor)

/-- The constants of the ordinals ask for no default value. -/
theorem presetFree_ordinalsBody : declaration.ordinalsBody.tokens.PresetFree := by
  have hvis := presetFree_visibility declaration.visibility
  refine CodeItem.presetFree_inherent (presetFree_word _) (PresetFree.flatMap fun member _ => ?_)
  have hname := (hvis.append (presetFree_word "const")).append (presetFree_name member.ident)
  have htype := (hname.append (presetFree_sign ":")).append (presetFree_name declaration.ident)
  exact ((htype.append (presetFree_sign "=")).append
    (declaration.presetFree_variantTokens member.ident)).append (presetFree_sign ";")

/-- An implementation of a trait for the wrapper calls what its body calls. -/
theorem presetFree_implement {names : List String} {body : TokenStream} (hbody : body.PresetFree) :
    (declaration.implement (core names) body).tokens.PresetFree :=
  CodeItem.presetFree_implementation (presetFree_core names) (presetFree_name _) hbody

/-- Wrappers are compared without default values. -/
theorem presetFree_equalityItems :
    ∀ item ∈ declaration.equalityItems, item.tokens.PresetFree := by
  simp only [equalityItems, List.forall_mem_cons]
  exact ⟨declaration.presetFree_implement ⟨rfl, rfl⟩, declaration.presetFree_implement ⟨rfl, rfl⟩,
    declaration.presetFree_implement ⟨rfl, rfl⟩, by simp⟩

/-- A wrapper is cloned variant by variant, without default values. -/
theorem presetFree_cloneItem : declaration.cloneItem.tokens.PresetFree := by
  have harms : (commas (declaration.variants.map declaration.cloneArm)).PresetFree := by
    refine presetFree_commas fun arm harm => ?_
    obtain ⟨ident, _, rfl⟩ := List.mem_map.mp harm
    exact ((declaration.presetFree_variantTokens ident).append (presetFree_sign "=>")).append
      (declaration.presetFree_construction ident)
  have hmatch := presetFree_matching (presetFree_wrapped "self") harms
  exact declaration.presetFree_implement (presetFree_alwaysInline.append
    (presetFree_function rfl presetFree_receiver (presetFree_word "Self") hmatch))

/-- A wrapper is shown for debugging without default values. -/
theorem presetFree_debugItem : declaration.debugItem.tokens.PresetFree := by
  have harms : (commas (declaration.variants.map declaration.debugArm)).PresetFree := by
    refine presetFree_commas fun arm harm => ?_
    obtain ⟨ident, _, rfl⟩ := List.mem_map.mp harm
    exact ((declaration.presetFree_variantTokens ident).append (presetFree_sign "=>")).append
      ⟨rfl, rfl⟩
  have hmatch := presetFree_matching (presetFree_wrapped "self") harms
  exact declaration.presetFree_implement (presetFree_formatting (presetFree_writeStr hmatch))

/-! ### Conversions that may fail -/

/-- An ordinal is a number, perhaps with a sign. -/
theorem presetFree_ordinalTokens (repr : IntegerType) (ordinal : Int64) :
    (Ordinal.tokens repr ordinal).PresetFree := by
  have hdigits (n : Nat) : (Ordinal.digits n).PresetFree := ⟨by simp [Ordinal.digits,
    TokenTree.callsAll, TokenTree.calls, TokenTree.isNamed], rfl⟩
  unfold Ordinal.tokens
  split
  · exact hdigits _
  · split
    · exact (presetFree_sign "-").append (hdigits _)
    · exact hdigits _

/-- The pattern of a value is a literal, perhaps with a sign. -/
theorem presetFree_pattern (value : Value) : value.pattern.PresetFree := by
  have hlit : value.lit.tokens.PresetFree := by
    refine presetFree_of_isGroup ?_
    unfold Lit.tokens Lit.token
    split <;> simp [TokenTree.isGroup]
  have hsign : PresetFree (if value.negative then sign "-" else []) := by
    split
    · exact presetFree_sign "-"
    · exact ⟨rfl, rfl⟩
  exact hsign.append hlit

/-- A value is a literal, which is sliced in full if it is a text of bytes. -/
theorem presetFree_valueTokens (value : Value) : value.tokens.PresetFree := by
  have hpattern := presetFree_pattern value
  unfold Value.tokens
  split
  · exact ((presetFree_sign "&").append hpattern).append ⟨rfl, rfl⟩
  · exact hpattern

/-- The entry of any slot is written without a call. -/
theorem presetFree_entryTokens (entry : Entry) : (declaration.entryTokens entry).PresetFree := by
  cases entry with
  | ordinal ordinal => exact presetFree_ordinalTokens declaration.repr ordinal
  | variant ident => exact declaration.presetFree_variantTokens ident
  | value value => exact presetFree_valueTokens value

/-- The pattern of any entry is written without a call. -/
theorem presetFree_patternTokens (entry : Entry) :
    (declaration.patternTokens entry).PresetFree := by
  cases entry with
  | ordinal ordinal => exact declaration.presetFree_entryTokens (.ordinal ordinal)
  | variant ident => exact declaration.presetFree_entryTokens (.variant ident)
  | value value => exact presetFree_pattern value

/-- An arm returns an entry or a constant of the wrapper. -/
theorem presetFree_resultTokens (result : ArmResult) :
    (declaration.resultTokens result).PresetFree := by
  cases result with
  | entry entry => exact declaration.presetFree_entryTokens entry
  | constant ident =>
    exact ((presetFree_word "Self").append (presetFree_sign "::")).append (presetFree_name ident)

/-- The type of a value is written without a call, for both lifetimes that are used. -/
theorem presetFree_valueTypeTokens (type : ValueType) {lifetime : String}
    (hlifetime : lifetime = "static" ∨ lifetime = "a") : (type.tokens lifetime).PresetFree := by
  rcases hlifetime with rfl | rfl <;> cases type <;>
    first | exact presetFree_word _ | exact ⟨rfl, rfl⟩

/-- The type that a slot is converted to is written without a call. -/
theorem presetFree_outputType (slot : Slot) : (declaration.outputType slot).PresetFree := by
  cases slot with
  | ordinal => exact presetFree_word _
  | enumeration => exact presetFree_name _
  | value index type => exact presetFree_valueTypeTokens type (.inl rfl)

/-- The type that a slot is converted from is written without a call. -/
theorem presetFree_inputType (slot : Slot) : (declaration.inputType slot).PresetFree := by
  cases slot with
  | ordinal => exact presetFree_word _
  | enumeration => exact presetFree_name _
  | value index type => exact presetFree_valueTypeTokens type (.inr rfl)

/-- The trait of a conversion is written without a call. -/
theorem presetFree_converting {target source : TokenStream} (htarget : target.PresetFree)
    (hsource : source.PresetFree) : (declaration.converting target source).PresetFree := by
  have hfront := ((presetFree_sign "<").append htarget).append (presetFree_word "as")
  have hinterface := hfront.append (presetFree_core
    ["convert", if declaration.throwOnCastFailure then "TryFrom" else "From"])
  exact ((hinterface.append (presetFree_sign "<")).append hsource).append (presetFree_sign ">>")

variable {declaration} (hthrow : declaration.throwOnCastFailure = true)
include hthrow

/-- Where conversions may fail, an arm calls at most `Ok`. -/
theorem presetFree_armTokens (arm : Arm) : (declaration.armTokens arm).PresetFree := by
  have hpattern := declaration.presetFree_patternTokens arm.accepts
  have hresult := presetFree_accepted (declaration.presetFree_resultTokens arm.result)
  have hguard : (word "__value" ++ word "if" ++ word "__value" ++ sign "==").PresetFree :=
    ⟨rfl, rfl⟩
  have haccepts : PresetFree (if arm.guarded then word "__value" ++ word "if" ++ word "__value" ++
      sign "==" ++ declaration.patternTokens arm.accepts
    else declaration.patternTokens arm.accepts) := by
    split
    · exact hguard.append hpattern
    · exact hpattern
  simp only [armTokens, hthrow, if_true]
  exact ((haccepts.append (presetFree_sign "=>")).append hresult).append (presetFree_sign ",")

/-- Where conversions may fail, the last arm refuses the input and presets nothing. -/
theorem presetFree_fallbackArm : declaration.fallbackArm.PresetFree := by
  simp only [fallbackArm, hthrow, if_true]
  exact ((presetFree_word "_").append (presetFree_sign "=>")).append
    (presetFree_refused (presetFree_word "value"))

/-- Where conversions may fail, a conversion asks for no default value. -/
theorem presetFree_conversionItem {borrows : Bool} {source target input : TokenStream}
    {arms : List Arm} (hsource : source.PresetFree) (htarget : target.PresetFree)
    (hinput : input.PresetFree) :
    (declaration.conversionItem borrows source target input arms).tokens.PresetFree := by
  have hangled {tokens : TokenStream} (h : tokens.PresetFree) : (angled tokens).PresetFree :=
    ((presetFree_sign "<").append h).append (presetFree_sign ">")
  have hinterface : (declaration.conversionTrait source).PresetFree :=
    (presetFree_core _).append (hangled hsource)
  have harms := PresetFree.flatMap fun arm (_ : arm ∈ arms) => presetFree_armTokens hthrow arm
  have hmatch := presetFree_matching hinput (harms.append (presetFree_fallbackArm hthrow))
  have herror : (word "type" ++ word "Error" ++ sign "=" ++ source ++ sign ";").PresetFree :=
    ((((presetFree_word "type").append (presetFree_word "Error")).append
      (presetFree_sign "=")).append hsource).append (presetFree_sign ";")
  have hallow : (allow "unreachable_patterns").PresetFree := ⟨rfl, rfl⟩
  have hparameters := ((presetFree_word "value").append (presetFree_sign ":")).append hsource
  have hself := (presetFree_word "Self").append (presetFree_sign ",")
  have hconverting := (declaration.presetFree_converting (presetFree_word "Self") hsource).append
    (presetFree_sign "::")
  have hresult := (presetFree_core ["result", "Result"]).append
    (hangled ((hself.append hconverting).append (presetFree_word "Error")))
  simp only [conversionItem, hthrow, if_true]
  exact CodeItem.presetFree_implementation hinterface htarget
    (((herror.append hallow).append presetFree_alwaysInline).append
      (presetFree_function rfl hparameters hresult hmatch))

/-- Where conversions may fail, this is so for both directions of any conversion. -/
theorem presetFree_conversionItems (conversion : Conversion) :
    ∀ item ∈ declaration.conversionItems conversion, item.tokens.PresetFree := by
  have hwrapper := presetFree_name declaration.wrapper
  have houtput := declaration.presetFree_outputType conversion.slot
  have hinput := declaration.presetFree_inputType conversion.slot
  simp only [conversionItems, List.forall_mem_cons]
  exact ⟨presetFree_conversionItem hthrow hwrapper houtput (presetFree_wrapped "value"),
    presetFree_conversionItem hthrow hinput hwrapper (presetFree_word "value"), by simp⟩

/-- Where conversions may fail, a wrapper is displayed without default values. -/
theorem presetFree_displayItems : ∀ item ∈ declaration.displayItems, item.tokens.PresetFree := by
  have hconverting := declaration.presetFree_converting
    (presetFree_valueTypeTokens .string (.inl rfl)) (presetFree_name declaration.wrapper)
  have hcopy : (call (core ["clone", "Clone", "clone"]) (word "self")).PresetFree := ⟨rfl, rfl⟩
  have hfunction := (hconverting.append (presetFree_sign "::")).append (presetFree_word "try_from")
  have hcall := hfunction.parenthesized List.getLast?_concat rfl hcopy.calls
  have harms : (accepted (word "value") ++ sign "=>" ++ writeStr (word "value") ++ sign "," ++
      refused (word "_") ++ sign "=>" ++ refused (core ["fmt", "Error"])).PresetFree := ⟨rfl, rfl⟩
  simp only [displayItems, hthrow, if_true]
  split
  · simp only [List.forall_mem_cons]
    exact ⟨declaration.presetFree_implement
      (presetFree_formatting (presetFree_matching hcall harms)), by simp⟩
  · simp

/-- Where conversions may fail, no implementation calls a function named `default`. -/
theorem callsAll_implementations :
    ∀ item ∈ declaration.items, item.isImplementation = true →
      TokenTree.callsAll "default" item.tokens = false := by
  suffices h : ∀ item ∈ declaration.items, item.isImplementation = true →
      item.tokens.PresetFree from
    fun item hitem himplementation => (h item hitem himplementation).calls
  have hconversions : ∀ item ∈ declaration.conversions.flatMap declaration.conversionItems,
      item.tokens.PresetFree := by
    intro item hitem
    obtain ⟨conversion, _, hitem⟩ := List.mem_flatMap.mp hitem
    exact presetFree_conversionItems hthrow conversion item hitem
  have hdefault : declaration.defaultItems = [] := by simp [defaultItems, hthrow]
  intro item hitem himplementation
  simp only [items, hdefault, List.mem_cons, List.mem_append, List.not_mem_nil, or_false] at hitem
  obtain ((((rfl | rfl) | rfl | rfl | hequality) | rfl | rfl | hconversion) | hdisplay) := hitem
  · simp [wrapperType, CodeItem.isImplementation] at himplementation
  · exact declaration.presetFree_wrapperBody
  · simp [ordinalsType, CodeItem.isImplementation] at himplementation
  · exact declaration.presetFree_ordinalsBody
  · exact declaration.presetFree_equalityItems item hequality
  · exact declaration.presetFree_cloneItem
  · exact declaration.presetFree_debugItem
  · exact hconversions item hconversion
  · exact presetFree_displayItems hthrow item hdisplay

end Declaration

end ValuedEnum
