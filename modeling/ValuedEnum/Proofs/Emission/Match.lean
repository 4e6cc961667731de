import ValuedEnum.Wrapper.Code

/-!
# Reading an emitted match

Conversions are emitted as tokens. This file reads the arms of a match back from its tokens, with
the pattern and the result of each, and proves that an emitted match reads as the arms that it was
made of, in their order, followed by the fallback.
-/

namespace ValuedEnum

namespace TokenTree

/-- Whether a tree is a comma. -/
def isComma : TokenTree → Bool
  | punct ',' _ _ => true
  | _ => false

/-- Whether a tree is an equals sign, such as an arrow starts with. -/
def isEquals : TokenTree → Bool
  | punct '=' _ _ => true
  | _ => false

end TokenTree

namespace TokenStream

/-- Tokens without a comma stay together when the arms of a match are told apart. -/
def CommaFree (tokens : TokenStream) : Prop := ∀ tree ∈ tokens, tree.isComma = false

/-- Tokens that hold no part of an arrow either. -/
def Plain (tokens : TokenStream) : Prop :=
  ∀ tree ∈ tokens, tree.isComma = false ∧ tree.isEquals = false

/-- Plain tokens hold no comma. -/
theorem Plain.commaFree {tokens : TokenStream} (h : tokens.Plain) : tokens.CommaFree :=
  fun tree htree => (h tree htree).1

/-- There is no comma among no tokens. -/
@[simp] theorem commaFree_nil : CommaFree [] := by simp [CommaFree]

/-- Commas are looked for one tree after the other. -/
@[simp] theorem commaFree_cons {tree : TokenTree} {rest : TokenStream} :
    CommaFree (tree :: rest) ↔ tree.isComma = false ∧ CommaFree rest := by
  simp [CommaFree]

/-- Commas are looked for on both sides of an append. -/
@[simp] theorem commaFree_append {front back : TokenStream} :
    CommaFree (front ++ back) ↔ front.CommaFree ∧ back.CommaFree := by
  simp [CommaFree, or_imp, forall_and]

/-- No tokens are plain. -/
@[simp] theorem plain_nil : Plain [] := by simp [Plain]

/-- Plain tokens are plain one by one. -/
@[simp] theorem plain_cons {tree : TokenTree} {rest : TokenStream} :
    Plain (tree :: rest) ↔ (tree.isComma = false ∧ tree.isEquals = false) ∧ Plain rest := by
  simp [Plain]

/-- Plain tokens are plain on both sides of an append. -/
@[simp] theorem plain_append {front back : TokenStream} :
    Plain (front ++ back) ↔ front.Plain ∧ back.Plain := by
  simp only [Plain, List.mem_append, or_imp, forall_and]
  grind

/-- Words are plain. -/
@[simp] theorem plain_word (text : String) : Plain (word text) := by
  simp [word, TokenTree.isComma, TokenTree.isEquals]

/-- What stands in parentheses is out of sight. -/
@[simp] theorem plain_parenthesized (tokens : TokenStream) : Plain (parenthesized tokens) := by
  simp [parenthesized, TokenTree.isComma, TokenTree.isEquals]

/-- What stands in brackets is out of sight. -/
@[simp] theorem plain_bracketed (tokens : TokenStream) : Plain (bracketed tokens) := by
  simp [bracketed, TokenTree.isComma, TokenTree.isEquals]

/-- The signs of the emitted patterns and results are neither commas nor parts of an arrow. -/
@[simp] theorem plain_signs : Plain (sign "::") ∧ Plain (sign "-") ∧ Plain (sign "&") := by
  simp [sign, signs, TokenTree.isComma, TokenTree.isEquals]

end TokenStream

/-- An arm as it is written: what stands in front of its arrow, and what stands behind it. -/
structure WrittenArm where
  pattern : TokenStream
  result : TokenStream

namespace WrittenArm

open TokenStream

/-- An arm is cut at its first arrow. -/
def ofTokens? : TokenStream → Option WrittenArm
  | [] => none
  | .punct '=' .joint _ :: .punct '>' _ _ :: rest => some ⟨[], rest⟩
  | tree :: rest => (ofTokens? rest).map fun arm => ⟨tree :: arm.pattern, arm.result⟩

/-- The arms of a match stand between commas. -/
def all (tokens : TokenStream) : List WrittenArm :=
  (tokens.splitOnP TokenTree.isComma).filterMap ofTokens?

/-- A pattern without an equals sign ends at the arrow behind it. -/
theorem ofTokens?_of_plain {pattern : TokenStream} (hpattern : pattern.Plain)
    (result : TokenStream) :
    ofTokens? (pattern ++ sign "=>" ++ result) = some ⟨pattern, result⟩ := by
  induction pattern with
  | nil => rfl
  | cons tree rest ih =>
    obtain ⟨⟨_, hequals⟩, hplain⟩ := plain_cons.mp hpattern
    rw [List.cons_append, List.cons_append, ofTokens?.eq_3, ih hplain]
    · rfl
    · rintro span spacing stop tail rfl
      simp [TokenTree.isEquals] at hequals

/-- What stands in front of the literal in a pattern that compares by a guard. -/
def guardFront : TokenStream := word "__value" ++ word "if" ++ word "__value" ++ sign "=="

/-- A guard compares by an operator that is no arrow. -/
theorem ofTokens?_guardFront (rest : TokenStream) :
    ofTokens? (guardFront ++ rest) =
      (ofTokens? rest).map fun arm => ⟨guardFront ++ arm.pattern, arm.result⟩ := by
  cases hrest : ofTokens? rest with
  | none => simp [guardFront, word, sign, signs, ofTokens?, hrest]
  | some arm => simp [guardFront, word, sign, signs, ofTokens?, hrest]

/-- Tokens without a comma are at most one arm. -/
theorem all_of_commaFree {tokens : TokenStream} (h : tokens.CommaFree) :
    all tokens = (ofTokens? tokens).toList := by
  rw [all, List.splitOnP_eq_singleton h]
  cases hread : ofTokens? tokens with
  | none => simp [hread]
  | some arm => simp [hread]

/-- The first comma ends the first arm. -/
theorem all_append_comma {front : TokenStream} (h : front.CommaFree) (rest : TokenStream) :
    all (front ++ sign "," ++ rest) = (ofTokens? front).toList ++ all rest := by
  have hsplit := List.splitOnP_append_cons_of_forall_mem h (.punct ',' .alone .nowhere) rfl rest
  have hcomma : front ++ sign "," ++ rest = front ++ .punct ',' .alone .nowhere :: rest := by
    simp [sign, signs]
  rw [all, hcomma, hsplit]
  cases hread : ofTokens? front with
  | none => simp [hread, all]
  | some arm => simp [hread, all]

/-- Parts with commas between them are read one by one. -/
theorem all_commas {parts : List TokenStream} (h : ∀ part ∈ parts, part.CommaFree) :
    all (Code.commas parts) = parts.filterMap ofTokens? := by
  induction parts with
  | nil => rfl
  | cons part rest ih =>
    obtain ⟨hpart, hrest⟩ := List.forall_mem_cons.mp h
    cases rest with
    | nil =>
      rw [Code.commas, all_of_commaFree hpart]
      cases hread : ofTokens? part <;> simp [hread]
    | cons next rest =>
      change all (part ++ sign "," ++ Code.commas (next :: rest)) = _
      rw [all_append_comma hpart, ih hrest]
      cases hread : ofTokens? part <;> simp [hread]

end WrittenArm

namespace Lit

/-- A literal is one token, and no sign. -/
@[simp] theorem plain_tokens (lit : Lit) : lit.tokens.Plain := by
  unfold tokens token
  split <;> simp [TokenTree.isComma, TokenTree.isEquals]

end Lit

namespace Declaration

open TokenStream Code WrittenArm

variable (declaration : Declaration)

/-- The path of a variant is plain. -/
@[simp] theorem plain_variantTokens (ident : Ident) : (declaration.variantTokens ident).Plain := by
  simp [variantTokens, name, TokenTree.isComma, TokenTree.isEquals]

/-- An ordinal is plain. -/
@[simp] theorem plain_ordinalTokens (repr : IntegerType) (ordinal : Int64) :
    (Ordinal.tokens repr ordinal).Plain := by
  unfold Ordinal.tokens
  split
  · simp [Ordinal.digits, TokenTree.isComma, TokenTree.isEquals]
  · split <;> simp [Ordinal.digits, TokenTree.isComma, TokenTree.isEquals]

/-- The pattern of a value is plain. -/
@[simp] theorem plain_valuePattern (value : Value) : value.pattern.Plain := by
  unfold Value.pattern
  split <;> simp

/-- The expression of a value is plain. -/
@[simp] theorem plain_valueTokens (value : Value) : value.tokens.Plain := by
  unfold Value.tokens
  split <;> simp

/-- The entry of any slot is plain. -/
@[simp] theorem plain_entryTokens (entry : Entry) : (declaration.entryTokens entry).Plain := by
  cases entry <;> simp [entryTokens]

/-- The pattern of any entry is plain. -/
@[simp] theorem plain_patternTokens (entry : Entry) : (declaration.patternTokens entry).Plain := by
  cases entry <;> simp [patternTokens]

/-- The result of any arm is plain. -/
@[simp] theorem plain_resultTokens (result : ArmResult) :
    (declaration.resultTokens result).Plain := by
  cases result <;> simp [resultTokens, name, TokenTree.isComma, TokenTree.isEquals]

/-- A path into the core library is plain. -/
@[simp] theorem plain_core (names : List String) : (core names).Plain := by
  suffices h : ∀ all : List String, (path all).Plain from h _
  intro all
  induction all with
  | nil => simp [path]
  | cons first rest ih =>
    cases rest with
    | nil => simp [path]
    | cons second rest => simpa [path] using ih

/-- The pattern of an arm as it is written. -/
def armPattern (arm : Arm) : TokenStream :=
  if arm.guarded then guardFront ++ declaration.patternTokens arm.accepts
  else declaration.patternTokens arm.accepts

/-- The result of an arm as it is written. -/
def armResult (arm : Arm) : TokenStream :=
  if declaration.throwOnCastFailure then accepted (declaration.resultTokens arm.result)
  else declaration.resultTokens arm.result

/-- An arm as it is written. -/
def written (arm : Arm) : WrittenArm := ⟨declaration.armPattern arm, declaration.armResult arm⟩

/-- The last arm of every match. -/
def writtenFallback : WrittenArm :=
  ⟨word "_", if declaration.throwOnCastFailure then refused (word "value") else preset⟩

/-- An arm is its pattern, an arrow, its result and a comma. -/
theorem armTokens_eq (arm : Arm) :
    declaration.armTokens arm =
      declaration.armPattern arm ++ sign "=>" ++ declaration.armResult arm ++ sign "," := by
  unfold armTokens armPattern armResult guardFront
  split <;> simp

/-- No comma stands in the pattern of an arm, even with a guard. -/
theorem commaFree_armPattern (arm : Arm) : (declaration.armPattern arm).CommaFree := by
  unfold armPattern
  split
  · simp [guardFront, word, sign, signs, TokenTree.isComma,
      (declaration.plain_patternTokens _).commaFree]
  · exact (declaration.plain_patternTokens _).commaFree

/-- No comma stands in the result of an arm. -/
theorem commaFree_armResult (arm : Arm) : (declaration.armResult arm).CommaFree := by
  apply Plain.commaFree
  unfold armResult
  split <;> simp [accepted, call]

/-- An arm is read as it was written. -/
theorem ofTokens?_written (arm : Arm) :
    ofTokens? (declaration.armPattern arm ++ sign "=>" ++ declaration.armResult arm) =
      some (declaration.written arm) := by
  have hplain := ofTokens?_of_plain (declaration.plain_patternTokens arm.accepts)
    (declaration.armResult arm)
  unfold written armPattern
  split
  · rw [List.append_assoc, List.append_assoc, ofTokens?_guardFront, ← List.append_assoc, hplain]
    rfl
  · exact hplain

/-- The fallback is read as it was written. -/
theorem all_fallbackArm : all declaration.fallbackArm = [declaration.writtenFallback] := by
  have hfree : declaration.fallbackArm.CommaFree := by
    unfold fallbackArm
    split <;> simp [refused, preset, call, word, sign, signs, parenthesized, TokenTree.isComma,
      (plain_core _).commaFree]
  rw [all_of_commaFree hfree]
  exact congrArg Option.toList (ofTokens?_of_plain (plain_word "_") _)

/-- An emitted match reads as its arms, and then the fallback. -/
theorem all_arms (arms : List Arm) :
    all (arms.flatMap declaration.armTokens ++ declaration.fallbackArm) =
      arms.map declaration.written ++ [declaration.writtenFallback] := by
  induction arms with
  | nil => exact declaration.all_fallbackArm
  | cons arm rest ih =>
    have hfree : CommaFree
        (declaration.armPattern arm ++ sign "=>" ++ declaration.armResult arm) := by
      simp [commaFree_armPattern, commaFree_armResult, sign, signs, TokenTree.isComma]
    rw [List.flatMap_cons, armTokens_eq, List.append_assoc, all_append_comma hfree, ih,
      ofTokens?_written]
    rfl

end Declaration

end ValuedEnum
