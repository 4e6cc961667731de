import ValuedEnum.Proofs.Containment
import ValuedEnum.Proofs.UnitNames

/-!
# Where enumerations are found

An enumeration has the place that the modules around it give it, and no other item gives a place to
what is inside of it. This file proves that a search finds the enumerations of all places in their
order, each one that has a wrapper once, under the name of its place.
-/

namespace ValuedEnum

/-- An enumeration with the modules around it, the outermost one first. -/
structure Placed where
  modules : List String
  item : EnumItem

namespace Placed

/-- The enumeration under the name of its place. -/
def declared (entry : Placed) : Declared :=
  ⟨Item.qualified entry.modules entry.item.ident.text, entry.item⟩

/-- The joined names of the modules around an enumeration, if there are any. -/
def space (entry : Placed) : Option String :=
  if entry.modules.isEmpty then none else some ("::".intercalate entry.modules)

/-- What is found of an enumeration with the options of its wrapper. -/
def found (entry : Placed) (options : Except Problem WrapperOptions) : Found :=
  ⟨Item.qualified entry.modules entry.item.ident.text, entry.item, options⟩

/-- What is found of an enumeration, if the host answers with options. -/
def found? (host : Host) (entry : Placed) : Option Found :=
  match host.wrapperOptions entry.item with
  | .ok (some options) => some (entry.found options)
  | _ => none

/-- The name of an enumeration is in the namespace of the modules around it. -/
theorem space_found (entry : Placed) (options : Except Problem WrapperOptions) :
    (entry.found options).space = entry.space := by
  obtain ⟨modules, item⟩ := entry
  cases modules with
  | nil => exact Item.namespaceOf?_qualified_nil item.ident.text
  | cons first rest => exact Item.namespaceOf?_qualified first rest item.ident.text

end Placed

namespace Item

mutual

/-- The enumerations of an item with their places, in their order. -/
def placed (modules : List String) : Item → List Placed
  | .module name items => placedAll (modules ++ [name.text]) items
  | .enumeration item => [⟨modules, item⟩]
  | .other => []

/-- The enumerations of some items with their places, in their order. -/
def placedAll (modules : List String) : List Item → List Placed
  | [] => []
  | item :: rest => item.placed modules ++ placedAll modules rest

end

mutual

/-- The enumerations of an item are those that have a place in it. -/
theorem declared_eq_placed (modules : List String) (item : Item) :
    item.declared modules = (item.placed modules).map Placed.declared := by
  cases item with
  | module name items => exact declaredAll_eq_placedAll (modules ++ [name.text]) items
  | enumeration item => rfl
  | other => rfl

/-- The enumerations of some items are those that have a place in one of them. -/
theorem declaredAll_eq_placedAll (modules : List String) (items : List Item) :
    declaredAll modules items = (placedAll modules items).map Placed.declared := by
  cases items with
  | nil => rfl
  | cons item rest =>
    have hitem := declared_eq_placed modules item
    have hrest := declaredAll_eq_placedAll modules rest
    rw [declaredAll, placedAll, hitem, hrest, List.map_append]

end

end Item

namespace Host

/-- A host that panics about no enumeration of a file finds those that have options. -/
theorem found_eq_placed {host : Host} {file : SourceFile}
    (h : ∀ entry ∈ Item.placedAll [] file, ∃ answer, host.wrapperOptions entry.item = .ok answer) :
    host.found file = .ok ((Item.placedAll [] file).filterMap (Placed.found? host)) := by
  have hanswered : ∀ entry ∈ Item.declaredAll [] file, entry.Answered host := by
    intro entry hentry
    rw [Item.declaredAll_eq_placedAll] at hentry
    obtain ⟨placed, hplaced, rfl⟩ := List.mem_map.mp hentry
    exact h placed hplaced
  rw [Host.found, Item.foundAll_eq_ask, Declared.ask_of_answered hanswered,
    Item.declaredAll_eq_placedAll, List.filterMap_map]
  rfl

end Host

end ValuedEnum
