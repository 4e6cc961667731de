import ValuedEnum.Wrapper.Code

/-!
# Status codes

A wrapper in use: the status codes of a protocol, with their ordinals and their names. A status code
behaves as the code of its wrapper says.
-/

namespace ValuedEnum

/-- A status code holds a variant of the enumeration it wraps. -/
structure StatusCode where
  variant : Ident
deriving DecidableEq, Repr

namespace StatusCode

/-- A word that stands nowhere. -/
def ident (text : String) : Ident := ⟨text, .nowhere⟩

/-- A member with an ordinal and a name. -/
def member (name : String) (ordinal : Int64) (text : String) : Member :=
  ⟨ident name, ordinal,
    [⟨.string, false, ⟨String.ofList (Text.quote text.toList), .nowhere⟩⟩]⟩

/-- The members of the enumeration. -/
def members : List Member :=
  [member "Ok" 200 "OK", member "NoContent" 204 "No Content", member "NotFound" 404 "Not Found"]

/-- The declaration of the wrapper. -/
def declaration : Declaration where
  visibility := .anywhere
  repr := .i32
  ident := ident "StatusCodeKind"
  fullName := "StatusCodeKind"
  wrapper := ident "StatusCode"
  convertOrdinal := true
  throwOnCastFailure := false
  variants := members.map Member.ident
  members := members
  types := commonTypes? members

/-- What status codes are converted to and from. -/
inductive Datum where
  | ordinal (ordinal : Int64)
  | variant (ident : Ident)
  | text (content : List Char)
  | other
deriving DecidableEq, Repr

/-- What an entry is converted to. -/
def Datum.ofEntry : Entry → Datum
  | .ordinal n => .ordinal n
  | .variant name => .variant name
  | .value value =>
    match value.lit.kind with
    | .string content _ => .text content
    | _ => .other

/-- Entries are equal if the data are. -/
def meaning : Meaning Datum := ⟨Datum.ofEntry, fun entry input => entry = input⟩

/-- The default variant of the enumeration. -/
def preset : StatusCode := ⟨ident "Ok"⟩

/-- The status code that a datum is converted to. -/
def enter (slot : Slot) (input : Datum) : StatusCode :=
  ((meaning.enter? (declaration.conversion slot) input).map StatusCode.mk).getD preset

/-- The datum that a status code is converted to. -/
def leave? (code : StatusCode) (slot : Slot) : Option Datum :=
  meaning.leave? (declaration.conversion slot) code.variant

/-- The slot of the names. -/
def textSlot : Slot := .value 0 .string

/-- The status code of an ordinal. -/
def ofOrdinal (ordinal : Int64) : StatusCode := enter .ordinal (.ordinal ordinal)

/-- The status code with a name. -/
def ofText (text : String) : StatusCode := enter textSlot (.text text.toList)

/-- The status code of a variant. -/
def ofVariant (ident : Ident) : StatusCode := enter .enumeration (.variant ident)

/-- The member with a name. -/
def constant? (name : String) : Option StatusCode :=
  (declaration.members.find? fun member => member.ident.text = name).map fun member => ⟨member.ident⟩

/-- The ordinal of a status code. -/
def ordinal (code : StatusCode) : Int64 :=
  match code.leave? .ordinal with
  | some (.ordinal ordinal) => ordinal
  | _ => 0

/-- The name of a status code. -/
def text (code : StatusCode) : String :=
  match code.leave? textSlot with
  | some (.text content) => String.ofList content
  | _ => ""

/-- The variant that a status code is converted to. -/
def toVariant (code : StatusCode) : Ident :=
  match code.leave? .enumeration with
  | some (.variant ident) => ident
  | _ => preset.variant

/-- A status code as it is shown for debugging. -/
def debug (code : StatusCode) : String := declaration.debugText code.variant

/-- The index of the first equal status code. -/
def firstEqual? (code : StatusCode) (earlier : List StatusCode) : Option Nat :=
  earlier.findIdx? (· = code)

/-- The number of different status codes. -/
def distinct (codes : List StatusCode) : Nat := codes.eraseDups.length

/-! ### The demonstration -/

/-- What is printed for an ordinal. -/
def ordinalLine (ordinal : Int64) : String :=
  let code := ofOrdinal ordinal
  toString ordinal.toInt ++ " -> " ++ code.debug ++ " (" ++ code.text ++ ", " ++
    toString code.ordinal.toInt ++ ")"

/-- What is printed for a name. -/
def textLine (text : String) : String :=
  String.ofList (Text.quote text.toList) ++ " -> " ++ (ofText text).debug

/-- The lines that the demonstration prints. -/
def lines : List String := [200, 204, 404, 500].map ordinalLine ++ [textLine "Not Found"]

end StatusCode

end ValuedEnum
