import ValuedEnum.Proofs.Emission.Conversion

/-!
# Showing a wrapper

A wrapper is shown by converting a copy of it to a string. The call is read from the tokens of the
emitted function, and so is what happens if that conversion fails.
-/

namespace ValuedEnum

open TokenStream Code

/-- The word between the type of a conversion and its trait. -/
def TokenTree.isAs : TokenTree → Bool
  | ident word => word.text = "as"
  | _ => false

namespace TokenStream

/-- A path that nothing stands behind. -/
def isPath (names : List String) (tokens : TokenStream) : Bool :=
  tokens.readPath.1 = names && tokens.readPath.2.isEmpty

/-- What a call of `f.write_str` writes. -/
def written? : TokenStream → Option TokenStream
  | [.ident formatter, .punct '.' _ _, .ident method, .group .parenthesis text _] =>
    if formatter.text = "f" ∧ method.text = "write_str" then some text else none
  | _ => none

/-- Whether some tokens are the type of strings that are never freed. -/
def isStaticStr : TokenStream → Bool
  | [.punct '&' _ _, .punct '\x27' _ _, .ident lifetime, .ident type] =>
    lifetime.text = "static" && type.text = "str"
  | _ => false

end TokenStream

/-- A call of a conversion, with the type that it converts to and the type that it converts. -/
structure ConversionCall where
  target : TokenStream
  fallible : Bool
  source : String
  argument : TokenStream

namespace ConversionCall

/-- A conversion is called by the function of its trait. -/
def ofTokens? : TokenStream → Option ConversionCall
  | .punct '<' _ _ :: tokens =>
    let interface : TokenStream := (tokens.dropWhile (!·.isAs)).drop 1
    match readPath interface with
    | (_, [.punct '<' _ _, .ident source, .punct '>' _ _, .punct '>' _ _, .punct ':' _ _,
        .punct ':' _ _, .ident function, .group .parenthesis argument _]) =>
      match WrittenConversion.fallible? interface with
      | some fallible =>
        if function.text = (if fallible then "try_from" else "from") then
          some ⟨tokens.takeWhile (!·.isAs), fallible, source.text, argument⟩
        else none
      | none => none
    | _ => none
  | _ => none

end ConversionCall

/-- How a wrapper is shown: what is converted to a string, and the arms that look at the result of a
conversion that may fail. -/
structure WrittenDisplay where
  call : ConversionCall
  arms : Option (List WrittenArm)

namespace WrittenDisplay

/-- A conversion that may fail is matched on, the result of any other one is written at once. -/
def ofTokens? (tokens : TokenStream) : Option WrittenDisplay :=
  match tokens.written? with
  | some text => (ConversionCall.ofTokens? text).map (⟨·, none⟩)
  | none =>
    match tokens, tokens.getLast? with
    | .ident keyword :: rest, some (.group .brace arms _) =>
      if keyword.text = "match" then
        (ConversionCall.ofTokens? rest.dropLast).map (⟨·, some (WrittenArm.all arms)⟩)
      else none
    | _, _ => none

/-- Whether an arm is for values, which it binds as `value`, or for errors. -/
def accepts {ε τ : Type} (pattern : TokenStream) : Except ε τ → Bool
  | .ok _ => (pattern.call? ["core", "result", "Result", "Ok"]).any (isPath ["value"])
  | .error _ => (pattern.call? ["core", "result", "Result", "Err"]).any (isPath ["_"])

/-- What an arm writes, if it does not return the error of formatting. -/
def result? {τ : Type} (value : Option τ) (tokens : TokenStream) : Option (Except Unit τ) :=
  match tokens.written? with
  | some text => if isPath ["value"] text then value.map .ok else none
  | none =>
    if (tokens.call? ["core", "result", "Result", "Err"]).any (isPath ["core", "fmt", "Error"]) then
      some (.error ())
    else none

/-- What is shown, given the outcome of the conversion. -/
def run? {ε τ : Type} (display : WrittenDisplay) (outcome : Except ε τ) : Option (Except Unit τ) :=
  match display.arms with
  | none => if display.call.fallible then none else outcome.toOption.map .ok
  | some arms =>
    if display.call.fallible then
      (arms.find? fun arm => accepts arm.pattern outcome).bind fun arm =>
        result? outcome.toOption arm.result
    else none

end WrittenDisplay

namespace Slot

/-- The slot for strings. -/
def isString : Slot → Bool
  | .value _ type => type.isString
  | _ => false

end Slot

namespace Declaration

variable {α : Type} (declaration : Declaration) (meaning : Interpretation α)

/-- How wrappers are shown, if they are. -/
def display? : Option WrittenDisplay :=
  match declaration.displayItems with
  | [item] => WrittenDisplay.ofTokens? item.functionBody
  | _ => none

/-- What is shown of a wrapper: what a copy of it is converted to, or an error. -/
def show? (wrapper : Wrapped) : Option (Except Unit (SlotValue α)) :=
  match declaration.display?, declaration.slots.find? Slot.isString with
  | some display, some slot =>
    if display.call.target.isStaticStr ∧ display.call.source = declaration.wrapper.text ∧
        (display.call.argument.call? ["core", "clone", "Clone", "clone"]).any (isPath ["self"]) then
      (declaration.clone? meaning wrapper).bind fun copy =>
        (declaration.leave? meaning slot copy).bind display.run?
    else none
  | _, _ => none

/-- The slot for strings is the first position of strings. -/
theorem find?_isString {index : Nat} (hslot : .value index .string ∈ declaration.slots) :
    declaration.slots.find? Slot.isString = some (.value index .string) := by
  cases hfind : declaration.slots.find? Slot.isString with
  | none => simpa [Slot.isString, ValueType.isString] using List.find?_eq_none.mp hfind _ hslot
  | some slot =>
    have hstring := List.find?_some hfind
    have hmem := List.mem_of_find?_eq_some hfind
    cases slot with
    | value other type =>
      cases type with
      | string => rw [value_mem_slots_unique hmem hslot]
      | _ => simp [Slot.isString, ValueType.isString] at hstring
    | _ => simp [Slot.isString] at hstring

/-- Wrappers are shown by a conversion of their copy to a string. -/
theorem display?_eq (hstring : (declaration.types.getD []).any ValueType.isString = true) :
    declaration.display? = some
      ⟨⟨ValueType.string.output, declaration.throwOnCastFailure, declaration.wrapper.text,
          call (core ["clone", "Clone", "clone"]) (word "self")⟩,
        if declaration.throwOnCastFailure then
          some [⟨accepted (word "value"), writeStr (word "value")⟩,
            ⟨refused (word "_"), refused (core ["fmt", "Error"])⟩]
        else none⟩ := by
  cases hthrow : declaration.throwOnCastFailure with
  | true =>
    simp only [display?, displayItems, converting, hstring, hthrow, if_true]
    rfl
  | false =>
    simp only [display?, displayItems, converting, hstring, hthrow, if_true, Bool.false_eq_true,
      if_false]
    rfl

/-- What is shown of a wrapper is made of what its copy is converted to. -/
theorem show?_eq_bind (hstring : (declaration.types.getD []).any ValueType.isString = true)
    {slot : Slot} (hslot : declaration.slots.find? Slot.isString = some slot) {wrapper : Wrapped}
    (hclone : declaration.clone? meaning wrapper = some wrapper) {display : WrittenDisplay}
    (hdisplay : declaration.display? = some display) :
    declaration.show? meaning wrapper =
      (declaration.leave? meaning slot wrapper).bind display.run? := by
  have htarget : ValueType.string.output.isStaticStr = true := rfl
  have hself : isPath ["self"] (word "self") = true := rfl
  obtain rfl := Option.some.inj (hdisplay.symm.trans (declaration.display?_eq hstring))
  simp only [show?, hdisplay, hslot, htarget, true_and, call?_core, if_true, Option.any_some, hself,
    hclone, Option.bind_some]

/-- The value that a copy of a wrapper is converted to is what is shown of the wrapper. -/
theorem show?_of_leave? (hstring : (declaration.types.getD []).any ValueType.isString = true)
    {slot : Slot} (hslot : declaration.slots.find? Slot.isString = some slot) {wrapper : Wrapped}
    (hclone : declaration.clone? meaning wrapper = some wrapper) {value : SlotValue α}
    (hleave : declaration.leave? meaning slot wrapper = some (.ok value)) :
    declaration.show? meaning wrapper = some (.ok value) := by
  have hvalue : isPath ["value"] (word "value") = true := rfl
  have hwritten : (writeStr (word "value")).written? = some (word "value") := rfl
  rw [declaration.show?_eq_bind meaning hstring hslot hclone (declaration.display?_eq hstring),
    hleave]
  cases hthrow : declaration.throwOnCastFailure with
  | true =>
    simp [WrittenDisplay.run?, WrittenDisplay.accepts, WrittenDisplay.result?, accepted, hvalue,
      hwritten, Except.toOption]
  | false => simp [WrittenDisplay.run?, Except.toOption]

/-- Where a conversion may fail, a wrapper whose copy is not converted is not shown either. -/
theorem show?_of_leave?_error (hstring : (declaration.types.getD []).any ValueType.isString = true)
    (hthrow : declaration.throwOnCastFailure = true) {slot : Slot}
    (hslot : declaration.slots.find? Slot.isString = some slot) {wrapper returned : Wrapped}
    (hclone : declaration.clone? meaning wrapper = some wrapper)
    (hleave : declaration.leave? meaning slot wrapper = some (.error returned)) :
    declaration.show? meaning wrapper = some (.error ()) := by
  have hany : isPath ["_"] (word "_") = true := rfl
  have herror : isPath ["core", "fmt", "Error"] (core ["fmt", "Error"]) = true := rfl
  have hwritten : (call (core ["result", "Result", "Err"]) (core ["fmt", "Error"])).written? =
      none := rfl
  rw [declaration.show?_eq_bind meaning hstring hslot hclone (declaration.display?_eq hstring),
    hleave]
  simp [hthrow, WrittenDisplay.run?, WrittenDisplay.accepts, WrittenDisplay.result?, accepted,
    refused, hany, herror, hwritten]

end Declaration

end ValuedEnum
