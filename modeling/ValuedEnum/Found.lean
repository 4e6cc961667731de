import ValuedEnum.Declaration
import ValuedEnum.Source.Item

/-!
# Finding annotated enumerations

The enumerations of a file are found in source order, those of inline modules included. A panic of
the host ends the search.
-/

namespace ValuedEnum

/-- An enumeration that has a wrapper. -/
structure Found where
  fullName : String
  item : EnumItem
  options : Except Problem WrapperOptions
deriving Inhabited

namespace Found

/-- The modules around the enumeration, joined as in its full name. -/
def space (found : Found) : Option String := namespaceOf? found.fullName found.item.ident.text

end Found

namespace Item

/-- The names of some modules and of what is inside of them, joined by `::`. -/
def qualified (modules : List String) (name : String) : String :=
  "::".intercalate (modules ++ [name])

mutual

/-- The annotated enumerations of an item inside of some modules. -/
def found (host : Host) (modules : List String) : Item → Except Panic (List Found)
  | .module name items => foundAll host (modules ++ [name.text]) items
  | .enumeration item =>
    match host.wrapperOptions item with
    | .error panic => .error panic
    | .ok none => .ok []
    | .ok (some options) => .ok [⟨qualified modules item.ident.text, item, options⟩]
  | .other => .ok []

/-- The annotated enumerations of some items inside of some modules, in their order. -/
def foundAll (host : Host) (modules : List String) : List Item → Except Panic (List Found)
  | [] => .ok []
  | item :: rest =>
    match found host modules item with
    | .error panic => .error panic
    | .ok front =>
      match foundAll host modules rest with
      | .error panic => .error panic
      | .ok back => .ok (front ++ back)

end

end Item

/-- The annotated enumerations of a file. -/
def Host.found (host : Host) (file : SourceFile) : Except Panic (List Found) :=
  Item.foundAll host [] file

end ValuedEnum
