import ValuedEnum.Declaration

/-!
# Conversions of a wrapper

A wrapper is converted to and from one type per slot. Each direction is a match whose arms are
tried in order; what no arm accepts takes a fallback.
-/

namespace ValuedEnum

/-- What a wrapper is converted to and from. -/
inductive Slot where
  | ordinal
  | enumeration
  /-- The values at a position. -/
  | value (index : Nat) (type : ValueType)
deriving DecidableEq, Repr, Inhabited

namespace Slot

/-- The first position of each type. -/
def ofTypes : (index : Nat) → (seen : List ValueType) → List ValueType → List Slot
  | _, _, [] => []
  | index, seen, type :: rest =>
    if type ∈ seen then ofTypes (index + 1) seen rest
    else .value index type :: ofTypes (index + 1) (type :: seen) rest

end Slot

/-- What a member is in a slot. -/
inductive Entry where
  | ordinal (ordinal : Int64)
  | variant (ident : Ident)
  | value (value : Value)
deriving DecidableEq, Repr, Inhabited

/-- What a member is in a slot. -/
def Member.entry? (member : Member) : Slot → Option Entry
  | .ordinal => some (.ordinal member.ordinal)
  | .enumeration => some (.variant member.ident)
  | .value index _ => member.values[index]?.map Entry.value

/-- What an arm returns. -/
inductive ArmResult where
  | entry (entry : Entry)
  /-- A constant of the wrapper. -/
  | constant (ident : Ident)
deriving DecidableEq, Repr, Inhabited

/-- An arm of a match; a guarded one binds its input and compares it with the entry. -/
structure Arm where
  accepts : Entry
  guarded : Bool
  result : ArmResult
deriving DecidableEq, Repr, Inhabited

/-- Both directions of the conversion of a slot. -/
structure Conversion where
  slot : Slot
  outgoing : List Arm
  incoming : List Arm
deriving Repr, Inhabited

namespace Declaration

/-- The slots in order. A type has at most one: a value's goes before the ordinal's, and the first
position of a type before the others. -/
def slots (declaration : Declaration) : List Slot :=
  let types := declaration.types.getD []
  (if declaration.convertOrdinal && !types.contains (.integer declaration.repr) then [.ordinal]
    else []) ++ .enumeration :: Slot.ofTypes 0 [] types

/-- Floats are compared by a guard. -/
def guards : Slot → Bool
  | .value _ type => type.isFloat
  | _ => false

/-- The conversion of a slot: an arm for each member that has an entry there. -/
def conversion (declaration : Declaration) (slot : Slot) : Conversion where
  slot := slot
  outgoing := declaration.members.filterMap fun member =>
    (member.entry? slot).map fun entry => ⟨.variant member.ident, false, .entry entry⟩
  incoming := declaration.members.filterMap fun member =>
    (member.entry? slot).map fun entry => ⟨entry, guards slot, .constant member.ident⟩

/-- The conversions of all slots. -/
def conversions (declaration : Declaration) : List Conversion :=
  declaration.slots.map declaration.conversion

end Declaration

/-- What entries stand for, and when a match takes two of them for the same. -/
structure Meaning (α : Type) where
  ofEntry : Entry → α
  same : α → α → Bool

namespace Meaning

/-- The result of the first arm that accepts an input. -/
def firstResult? (meaning : Meaning α) (arms : List Arm) (input : α) : Option ArmResult :=
  (arms.find? fun arm => meaning.same (meaning.ofEntry arm.accepts) input).map Arm.result

/-- What a variant is converted to, or nothing if it takes the fallback. -/
def leave? (meaning : Meaning α) (conversion : Conversion) (variant : Ident) : Option α :=
  match meaning.firstResult? conversion.outgoing (meaning.ofEntry (.variant variant)) with
  | some (.entry entry) => some (meaning.ofEntry entry)
  | _ => none

/-- The constant that an input is converted to, or nothing if it takes the fallback. -/
def enter? (meaning : Meaning α) (conversion : Conversion) (input : α) : Option Ident :=
  match meaning.firstResult? conversion.incoming input with
  | some (.constant ident) => some ident
  | _ => none

end Meaning

end ValuedEnum
