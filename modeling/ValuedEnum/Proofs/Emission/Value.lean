import ValuedEnum.Proofs.Emission.Match

/-!
# The values of emitted expressions

What a literal denotes, and when a match takes two values for equal, is not decided by emitted code.
An `Interpretation` gives both for the type of each slot. Paths and calls are read from the tokens:
this file tells the expressions of emitted code apart and gives them their values.
-/

namespace ValuedEnum

namespace TokenStream

/-- The words of the path that some tokens start with, and the tokens behind it. -/
def readPath : TokenStream → List String × TokenStream
  | .ident word :: .punct ':' _ _ :: .punct ':' _ _ :: rest =>
    (word.text :: (readPath rest).1, (readPath rest).2)
  | .ident word :: rest => ([word.text], rest)
  | tokens => ([], tokens)

/-- The second word of a path of two words that starts with `owner`. -/
def memberOf? (owner : String) (tokens : TokenStream) : Option String :=
  match tokens.readPath with
  | ([first, second], []) => if first = owner then some second else none
  | _ => none

/-- The arguments of a call of what a path names. -/
def call? (callee : List String) (tokens : TokenStream) : Option TokenStream :=
  match tokens.readPath with
  | (words, [.group .parenthesis arguments _]) => if words = callee then some arguments else none
  | _ => none

/-- A path of words in front of a group reads as these words. -/
theorem readPath_path {names : List String} (hnames : names ≠ []) (arguments : TokenStream) :
    readPath (path names ++ parenthesized arguments) = (names, parenthesized arguments) := by
  induction names with
  | nil => contradiction
  | cons first rest ih =>
    cases rest with
    | nil => rfl
    | cons second rest =>
      change (first :: (readPath (path (second :: rest) ++ parenthesized arguments)).1,
        (readPath (path (second :: rest) ++ parenthesized arguments)).2) = _
      rw [ih (by simp)]

/-- An emitted call reads as a call of its callee, and of nothing else. -/
@[simp] theorem call?_core (callee names : List String) (arguments : TokenStream) :
    call? callee (Code.call (Code.core names) arguments) =
      if "core" :: names = callee then some arguments else none := by
  rw [call?, Code.call, Code.core, readPath_path (by simp)]
  rfl

/-- A literal is no call. -/
@[simp] theorem call?_lit (callee : List String) (lit : Lit) : call? callee lit.tokens = none := by
  unfold Lit.tokens Lit.token
  split <;> rfl

/-- A number with a sign is no call. -/
@[simp] theorem call?_minus (callee : List String) (tokens : TokenStream) :
    call? callee (sign "-" ++ tokens) = none := by
  cases tokens <;> rfl

/-- A reference is no call. -/
@[simp] theorem call?_reference (callee : List String) (tokens : TokenStream) :
    call? callee (sign "&" ++ tokens) = none := by
  cases tokens <;> rfl

/-- A path of two words names a member of what its first word names. -/
@[simp] theorem memberOf?_path (owner : String) (first second : Ident) :
    memberOf? owner (Code.name first ++ (sign "::" ++ Code.name second)) =
      if first.text = owner then some second.text else none := rfl

end TokenStream

/-- A value on the other side of a conversion: a variant of the enumeration, or a value of the kind
that literals denote. -/
inductive SlotValue (α : Type) where
  | variant (name : String)
  | literal (value : α)
deriving DecidableEq

/-- A wrapper holds a variant. -/
structure Wrapped where
  variant : String
deriving DecidableEq

/-- What emitted code relies on: the values of the literals and the default value in the type of
each slot, the equality that patterns and guards of that type use, and the variant that is the
default of the enumeration. -/
structure Interpretation (α : Type) where
  denote : Slot → TokenStream → α
  same : Slot → α → α → Bool
  preset : Slot → α
  presetVariant : String

namespace Interpretation

variable {α : Type} (meaning : Interpretation α)

/-- The default value of a slot's type. -/
def presetOf : Slot → SlotValue α
  | .enumeration => .variant meaning.presetVariant
  | slot => .literal (meaning.preset slot)

/-- The value of tokens in the type of a slot; variants are paths that start with the name of the
enumeration. -/
def value? (enumeration : String) (slot : Slot) (tokens : TokenStream) : Option (SlotValue α) :=
  match slot with
  | .enumeration => (tokens.memberOf? enumeration).map .variant
  | slot => some (.literal (meaning.denote slot tokens))

/-- Variants are equal if they have one name, other values as the interpretation says. -/
def equal (slot : Slot) : SlotValue α → SlotValue α → Bool
  | .variant first, .variant second => first = second
  | .literal first, .literal second => meaning.same slot first second
  | _, _ => false

end Interpretation

namespace WrittenArm

open TokenStream

/-- The literal of a guard; other patterns stand for themselves. -/
def unguarded : TokenStream → TokenStream
  | .ident bound :: .ident keyword :: .ident compared :: .punct '=' first span ::
      .punct '=' second stop :: rest =>
    if bound.text = "__value" ∧ keyword.text = "if" ∧ compared.text = "__value" then rest
    else .ident bound :: .ident keyword :: .ident compared :: .punct '=' first span ::
      .punct '=' second stop :: rest
  | tokens => tokens

/-- Whether a pattern is the one that accepts everything. -/
def isWildcard : TokenStream → Bool
  | [.ident word] => word.text = "_"
  | _ => false

/-- Whether a pattern accepts a value: it is a wildcard, or its literal or variant is equal to the
value. -/
def accepts {α : Type} (meaning : Interpretation α) (enumeration : String) (slot : Slot)
    (pattern : TokenStream) (input : SlotValue α) : Bool :=
  isWildcard pattern ||
    (meaning.value? enumeration slot (unguarded pattern)).any (meaning.equal slot · input)

/-- The result of an arm in a function with a parameter `value`. A fallible function says of each
result whether it is accepted or refused; any other one may return the default of its type. -/
def result? {ε τ : Type} (fallible : Bool) (value : ε) (preset : Option τ)
    (read : TokenStream → Option τ) (tokens : TokenStream) : Option (Except ε τ) :=
  if fallible then
    match call? ["core", "result", "Result", "Ok"] tokens with
    | some inner => (read inner).map .ok
    | none =>
      match call? ["core", "result", "Result", "Err"] tokens with
      | some inner =>
        if inner.readPath.1 = ["value"] ∧ inner.readPath.2.isEmpty then some (.error value)
        else none
      | none => none
  else
    match call? ["core", "default", "Default", "default"] tokens with
    | some _ => preset.map .ok
    | none => (read tokens).map .ok

end WrittenArm

end ValuedEnum
