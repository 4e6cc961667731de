import ValuedEnum.Proofs.Emission.Value

/-!
# Running the items of a wrapper

A wrapper is made by its constants, by its default value and by its copies. Each is run here as its
tokens say: the constants are looked up among those that the wrapper's body declares, and a copy
takes the arm of the variant inside. The equations at the end of each section say what comes out.
-/

namespace ValuedEnum

open TokenStream Code

/-- A match as it is written. -/
structure WrittenMatch where
  subject : String
  /-- Whether it is the variant inside of the subject that is matched. -/
  inside : Bool
  arms : List WrittenArm

/-- A match on a parameter, or on what is inside of it. -/
def WrittenMatch.ofTokens? : TokenStream → Option WrittenMatch
  | .ident keyword :: .ident subject :: rest =>
    if keyword.text = "match" then
      match rest with
      | [.group .brace arms _] => some ⟨subject.text, false, WrittenArm.all arms⟩
      | [.punct '.' _ _, .literal field _, .group .brace arms _] =>
        if field = "0" then some ⟨subject.text, true, WrittenArm.all arms⟩ else none
      | _ => none
    else none
  | _ => none

/-- A match on a parameter is read with its arms. -/
@[simp] theorem WrittenMatch.ofTokens?_matching (subject : String) (arms : TokenStream) :
    ofTokens? (matching (word subject) arms) = some ⟨subject, false, WrittenArm.all arms⟩ := rfl

/-- A match on what is inside of a parameter is read with its arms. -/
@[simp] theorem WrittenMatch.ofTokens?_matching_wrapped (subject : String) (arms : TokenStream) :
    ofTokens? (matching (wrapped subject) arms) = some ⟨subject, true, WrittenArm.all arms⟩ := rfl

namespace TokenTree

/-- Whether a tree is a semicolon. -/
def isSemicolon : TokenTree → Bool
  | punct ';' _ _ => true
  | _ => false

/-- Whether a tree is the word in front of a constant. -/
def isConst : TokenTree → Bool
  | ident word => word.text = "const"
  | _ => false

end TokenTree

namespace CodeItem

/-- What stands between the braces of the function at the end of an implementation. -/
def functionBody : CodeItem → TokenStream
  | implementation _ _ _ body =>
    match body.getLast? with
    | some (.group .brace inner _) => inner
    | _ => []
  | _ => []

/-- The body of an implementation's function is what stands between its braces. -/
@[simp] theorem functionBody_implementation (borrows : Bool)
    (interface target front name parameters result body : TokenStream) :
    functionBody (implementation borrows interface target
      (front ++ function name parameters result body)) = body := by
  simp [functionBody, function, braced]

/-- The name and the value of a constant that stands in front of a semicolon. -/
def constantOf? (tokens : TokenStream) : Option (String × TokenStream) :=
  match tokens.dropWhile (!·.isConst) with
  | [_, .ident name, .punct ':' _ _, .ident _, .punct '=' _ _, maker, arguments] =>
    some (name.text, [maker, arguments])
  | _ => none

/-- The constants that belong to a type, in order. -/
def constants : CodeItem → List (String × TokenStream)
  | inherent _ body => (body.splitOnP TokenTree.isSemicolon).filterMap constantOf?
  | _ => []

end CodeItem

namespace Interpretation

variable {α : Type} (meaning : Interpretation α)

/-- The variant that an expression stands for: a path, or the default of the enumeration. -/
def variant? (enumeration : String) (tokens : TokenStream) : Option String :=
  match tokens.call? ["core", "default", "Default", "default"] with
  | some _ => some meaning.presetVariant
  | none => tokens.memberOf? enumeration

/-- A wrapper is constructed from the variant that it holds. -/
def construct? (enumeration : String) (tokens : TokenStream) : Option Wrapped :=
  (tokens.call? ["Self"]).bind fun inner => (meaning.variant? enumeration inner).map Wrapped.mk

/-- A wrapper is constructed by a call of `Self` with a variant. -/
theorem construct?_call (enumeration : String) (inner : TokenStream) :
    meaning.construct? enumeration (call (word "Self") inner) =
      (meaning.variant? enumeration inner).map Wrapped.mk := rfl

end Interpretation

namespace Declaration

variable {α : Type} (declaration : Declaration) (meaning : Interpretation α)

/-- The path of a variant is no call. -/
@[simp] theorem call?_variantTokens (callee : List String) (ident : Ident) :
    call? callee (declaration.variantTokens ident) = none := rfl

/-- The path of a variant starts with the name of the enumeration. -/
@[simp] theorem memberOf?_variantTokens (ident : Ident) :
    memberOf? declaration.ident.text (declaration.variantTokens ident) = some ident.text := by
  simp [variantTokens]

/-- A variant in parentheses behind `Self` is the wrapper that holds it. -/
@[simp] theorem construct?_variantTokens (ident : Ident) :
    meaning.construct? declaration.ident.text
      (call (word "Self") (declaration.variantTokens ident)) = some ⟨ident.text⟩ := by
  simp [Interpretation.construct?_call, Interpretation.variant?]

/-! ### Constants -/

/-- The wrapper that a constant stands for. -/
def constant? (name : String) : Option Wrapped :=
  (declaration.wrapperBody.constants.lookup name).bind
    (meaning.construct? declaration.ident.text)

/-- A visibility is neither a semicolon nor the start of a constant. -/
theorem visibility_tokens_inert (visibility : Visibility) :
    ∀ tree ∈ visibility.tokens, tree.isSemicolon = false ∧ tree.isConst = false := by
  cases visibility <;>
    simp [Visibility.tokens, word, parenthesized, TokenTree.isSemicolon, TokenTree.isConst]

/-- The part of a constant in front of its semicolon. -/
def constantFront (member : Member) : TokenStream :=
  declaration.vis ++ (word "const" ++ name member.ident ++ sign ":" ++ word "Self" ++ sign "=" ++
    call (word "Self") (declaration.variantTokens member.ident))

/-- A constant is read with its name and the variant that it wraps. -/
theorem constantOf?_constantFront (member : Member) :
    CodeItem.constantOf? (declaration.constantFront member) =
      some (member.ident.text, call (word "Self") (declaration.variantTokens member.ident)) := by
  have hvis : ∀ tree ∈ declaration.vis, (!tree.isConst) = true := fun tree htree => by
    simp [(visibility_tokens_inert _ tree htree).2]
  rw [CodeItem.constantOf?, constantFront, List.dropWhile_append_of_pos hvis]
  rfl

/-- What stands behind the constants is a function. -/
def accessor : TokenStream :=
  documented " Returns the wrapped enumeration variant." ++ alwaysInline ++ declaration.vis ++
    (word "const" ++ function (word "as_enum") receiver (sign "&" ++ name declaration.ident)
      (sign "&" ++ wrapped "self"))

/-- What stands behind the constants declares no other constant. -/
theorem constants_accessor :
    (declaration.accessor.splitOnP TokenTree.isSemicolon).filterMap CodeItem.constantOf? = [] := by
  have hsemicolon : ∀ tree ∈ declaration.accessor, tree.isSemicolon = false := by
    have hvis := fun tree htree => (visibility_tokens_inert declaration.visibility tree htree).1
    simpa [accessor, vis, documented, alwaysInline, marked, function, name, receiver, word, sign,
      signs, parenthesized, bracketed, braced, TokenTree.isSemicolon, or_imp, forall_and] using hvis
  have hconst : ∀ tree ∈ documented " Returns the wrapped enumeration variant." ++ alwaysInline ++
      declaration.vis, (!tree.isConst) = true := by
    have hvis := fun tree htree => (visibility_tokens_inert declaration.visibility tree htree).2
    simpa [vis, documented, alwaysInline, marked, word, sign, signs, bracketed, TokenTree.isConst,
      or_imp, forall_and] using hvis
  have hnone : CodeItem.constantOf? declaration.accessor = none := by
    rw [CodeItem.constantOf?, accessor, List.dropWhile_append_of_pos hconst]
    rfl
  simp [List.splitOnP_eq_singleton hsemicolon, hnone]

/-- The body of the wrapper declares one constant for each member. -/
theorem constants_wrapperBody :
    declaration.wrapperBody.constants = declaration.members.map fun member =>
      (member.ident.text, call (word "Self") (declaration.variantTokens member.ident)) := by
  have hbody : declaration.wrapperBody = .inherent (name declaration.wrapper)
      (declaration.members.flatMap declaration.wrapperConstant ++ declaration.accessor) := by
    simp [wrapperBody, accessor]
  rw [hbody, CodeItem.constants]
  induction declaration.members with
  | nil => exact declaration.constants_accessor
  | cons member rest ih =>
    have hfront : ∀ tree ∈ declaration.constantFront member, tree.isSemicolon = false := by
      have hvis := fun tree htree => (visibility_tokens_inert declaration.visibility tree htree).1
      simpa [constantFront, vis, call, name, word, sign, signs, parenthesized,
        TokenTree.isSemicolon, or_imp, forall_and] using hvis
    have hsplit : (member :: rest).flatMap declaration.wrapperConstant ++ declaration.accessor =
        declaration.constantFront member ++ .punct ';' .alone .nowhere ::
          (rest.flatMap declaration.wrapperConstant ++ declaration.accessor) := by
      simp [wrapperConstant, constantFront, sign, signs]
    rw [hsplit, List.splitOnP_append_cons_of_forall_mem hfront _ rfl, List.filterMap_cons,
      constantOf?_constantFront, ih]
    rfl

/-- The constants of a wrapper hold the variants of its members. -/
theorem constant?_eq (name : String) :
    declaration.constant? meaning name =
      if ∃ member ∈ declaration.members, member.ident.text = name then some ⟨name⟩ else none := by
  rw [constant?, constants_wrapperBody]
  induction declaration.members with
  | nil => rfl
  | cons member rest ih =>
    rw [List.map_cons, List.lookup_cons]
    by_cases hname : member.ident.text = name
    · simp [hname]
    · have hne : (name == member.ident.text) = false := by simpa using fun h => hname h.symm
      simp only [hne, ih, List.mem_cons, exists_eq_or_imp, hname, false_or]

/-! ### The default value -/

/-- The default wrapper, if there is one. -/
def presetWrapper? : Option Wrapped :=
  match declaration.defaultItems with
  | [item] => meaning.construct? declaration.ident.text item.functionBody
  | _ => none

/-- There is a default wrapper if failed conversions need one, and it holds the default variant. -/
theorem presetWrapper?_eq :
    declaration.presetWrapper? meaning =
      if declaration.throwOnCastFailure then none else some ⟨meaning.presetVariant⟩ := by
  cases hthrow : declaration.throwOnCastFailure with
  | true => simp [presetWrapper?, defaultItems, hthrow]
  | false =>
    simp [presetWrapper?, defaultItems, hthrow, implement, Interpretation.construct?_call,
      Interpretation.variant?, preset]

/-! ### Copies -/

/-- The path of a variant accepts the variant with its name. -/
@[simp] theorem accepts_variantTokens (ident : Ident) (variant : String) :
    WrittenArm.accepts meaning declaration.ident.text .enumeration (declaration.variantTokens ident)
      (.variant variant) = decide (ident.text = variant) := by
  have hwildcard : WrittenArm.isWildcard (declaration.variantTokens ident) = false := rfl
  have hguard : WrittenArm.unguarded (declaration.variantTokens ident) =
      declaration.variantTokens ident := rfl
  simp [WrittenArm.accepts, hwildcard, hguard, Interpretation.value?, Interpretation.equal]

/-- The arms of the match that copies a wrapper. -/
def cloneArms : List WrittenArm :=
  match WrittenMatch.ofTokens? declaration.cloneItem.functionBody with
  | some ⟨"self", true, arms⟩ => arms
  | _ => []

/-- The arm that copies a wrapper of a variant. -/
def writtenClone (ident : Ident) : WrittenArm :=
  ⟨declaration.variantTokens ident, call (word "Self") (declaration.variantTokens ident)⟩

/-- The match that copies a wrapper has one arm for each variant, in their order. -/
theorem cloneArms_eq :
    declaration.cloneArms = declaration.variants.map declaration.writtenClone := by
  have hparts : ∀ part ∈ declaration.variants.map declaration.cloneArm, part.CommaFree := by
    intro part hpart
    obtain ⟨ident, _, rfl⟩ := List.mem_map.mp hpart
    simp [cloneArm, call, sign, signs, TokenTree.isComma,
      (declaration.plain_variantTokens ident).commaFree, (plain_word _).commaFree,
      (plain_parenthesized _).commaFree]
  have harms : declaration.cloneArms =
      WrittenArm.all (commas (declaration.variants.map declaration.cloneArm)) := by
    simp [cloneArms, cloneItem, implement]
  have hread : WrittenArm.ofTokens? ∘ declaration.cloneArm = some ∘ declaration.writtenClone :=
    funext fun ident => WrittenArm.ofTokens?_of_plain (declaration.plain_variantTokens ident) _
  rw [harms, WrittenArm.all_commas hparts, List.filterMap_map, hread, List.filterMap_eq_map]

/-- The copy of a wrapper. -/
def clone? (wrapper : Wrapped) : Option Wrapped :=
  (declaration.cloneArms.find? fun arm =>
    WrittenArm.accepts meaning declaration.ident.text .enumeration arm.pattern
      (.variant wrapper.variant)).bind fun arm =>
    meaning.construct? declaration.ident.text arm.result

/-- The arm of a variant accepts this variant. -/
theorem accepts_writtenClone (variant : String) :
    (fun arm : WrittenArm => WrittenArm.accepts meaning declaration.ident.text .enumeration
        arm.pattern (.variant variant)) ∘ declaration.writtenClone =
      fun ident => decide (ident.text = variant) :=
  funext fun ident => declaration.accepts_variantTokens meaning ident variant

/-- A wrapper of a declared variant is equal to its copy; no arm copies any other one. -/
theorem clone?_eq (wrapper : Wrapped) :
    declaration.clone? meaning wrapper =
      if wrapper.variant ∈ declaration.variants.map Ident.text then some wrapper else none := by
  rw [clone?, cloneArms_eq, List.find?_map, accepts_writtenClone]
  cases hfind : declaration.variants.find? fun ident => decide (ident.text = wrapper.variant) with
  | none =>
    have hnone : wrapper.variant ∉ declaration.variants.map Ident.text := by
      intro hvariant
      obtain ⟨ident, hident, hname⟩ := List.mem_map.mp hvariant
      simpa [hname] using List.find?_eq_none.mp hfind ident hident
    simp [hnone]
  | some ident =>
    have hname : ident.text = wrapper.variant := by simpa using List.find?_some hfind
    have hsome : wrapper.variant ∈ declaration.variants.map Ident.text :=
      List.mem_map.mpr ⟨ident, List.mem_of_find?_eq_some hfind, hname⟩
    simp [writtenClone, hname, hsome]

/-- A variant is accepted by as many arms as there are variants with its name. -/
theorem countP_cloneArms (variant : String) :
    (declaration.cloneArms.countP fun arm =>
      WrittenArm.accepts meaning declaration.ident.text .enumeration arm.pattern
        (.variant variant)) = (declaration.variants.map Ident.text).count variant := by
  rw [cloneArms_eq, List.countP_map, accepts_writtenClone, List.count, List.countP_map]
  refine List.countP_congr fun ident _ => ?_
  simp

end Declaration

end ValuedEnum
