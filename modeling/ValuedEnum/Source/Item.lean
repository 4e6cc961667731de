import ValuedEnum.Source.Enumeration

/-!
# Files

A file is a list of items. Enumerations are found in files and in modules; no other item holds any
that has a path.
-/

namespace ValuedEnum

/-- An item of a file; only modules and enumerations are kept. -/
inductive Item where
  | module (name : Ident) (items : List Item)
  | enumeration (item : EnumItem)
  | other
deriving Repr, Inhabited

/-- The items of a file. -/
abbrev SourceFile := List Item

end ValuedEnum
