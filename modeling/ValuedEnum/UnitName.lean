/-!
# Names of units

A unit is named after the modules around its enumeration and after its wrapper, with dots between
them.
-/

namespace ValuedEnum

namespace UnitName

/-- What stands in front of a given end of a text. -/
def dropEnd? (text ending : List Char) : Option (List Char) :=
  if ending.isSuffixOf text then some (text.take (text.length - ending.length)) else none

/-- A dot for each `::`, from the left. -/
def dotted : List Char → List Char
  | ':' :: ':' :: rest => '.' :: dotted rest
  | c :: rest => c :: dotted rest
  | [] => []

end UnitName

/-- The modules in front of a name, if there are any. -/
def namespaceOf? (fullName name : String) : Option String :=
  (UnitName.dropEnd? fullName.toList name.toList).bind fun front =>
    (UnitName.dropEnd? front [':', ':']).map String.ofList

/-- The name of the unit of a wrapper. -/
def unitName (space : Option String) (wrapper : String) : String :=
  match space with
  | some space => String.ofList (UnitName.dotted space.toList) ++ "." ++ wrapper ++ ".rs"
  | none => wrapper ++ ".rs"

end ValuedEnum
