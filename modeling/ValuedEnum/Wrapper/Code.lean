import ValuedEnum.Text.Quoted
import ValuedEnum.Wrapper.Conversion

/-!
# The code of a wrapper

The code is a list of items: the types it declares, the functions and constants that belong to a
type, and the traits that a type implements.
-/

namespace ValuedEnum

namespace Code

open TokenStream

/-! ### Words of the generated language -/

/-- A path in the core library. -/
def core (names : List String) : TokenStream := path ("core" :: names)

/-- A single identifier. -/
def name (ident : Ident) : TokenStream := [.ident ident]

/-- An attribute in front of a declaration. -/
def marked (content : TokenStream) : TokenStream := sign "#" ++ bracketed content

/-- The attribute that allows a lint. -/
def allow (lint : String) : TokenStream := marked (word "allow" ++ parenthesized (word lint))

/-- The attribute of a function that is always inlined. -/
def alwaysInline : TokenStream := marked (word "inline" ++ parenthesized (word "always"))

/-- A line of documentation, as a raw string. -/
def documented (line : String) : TokenStream :=
  marked (word "doc" ++ sign "=" ++ [.literal ("r\"" ++ line ++ "\"") .nowhere])

/-- A lifetime with its quote. -/
def lifetime (text : String) : TokenStream := .punct '\x27' .joint .nowhere :: word text

/-- The receiver of a method. -/
def receiver : TokenStream := sign "&" ++ word "self"

/-- The variant inside of a wrapper. -/
def wrapped (value : String) : TokenStream := word value ++ sign "." ++ [.literal "0" .nowhere]

/-- A function with its parameters, its result and its body. -/
def function (name : TokenStream) (parameters result body : TokenStream) : TokenStream :=
  word "fn" ++ name ++ parenthesized parameters ++ sign "->" ++ result ++ braced body

/-- A match with its arms. -/
def matching (input arms : TokenStream) : TokenStream := word "match" ++ input ++ braced arms

/-- Something with commas between its parts. -/
def commas : List TokenStream → TokenStream
  | [] => []
  | [part] => part
  | part :: rest => part ++ sign "," ++ commas rest

/-- A call with its arguments. -/
def call (callee arguments : TokenStream) : TokenStream := callee ++ parenthesized arguments

/-- The result of a conversion that succeeds. -/
def accepted (result : TokenStream) : TokenStream := call (core ["result", "Result", "Ok"]) result

/-- The result of a conversion that fails. -/
def refused (result : TokenStream) : TokenStream := call (core ["result", "Result", "Err"]) result

/-- The default value of any type. -/
def preset : TokenStream := call (core ["default", "Default", "default"]) []

end Code

open TokenStream Code

/-- An item of generated code. -/
inductive CodeItem where
  /-- A type that is declared, with all its tokens. -/
  | type (tokens : TokenStream)
  /-- The constants and functions of a type. -/
  | inherent (target body : TokenStream)
  /-- The implementation of a trait, perhaps for any lifetime of what it borrows. -/
  | implementation (borrows : Bool) (interface target body : TokenStream)
deriving Repr, Inhabited

/-- The tokens of an item. -/
def CodeItem.tokens : CodeItem → TokenStream
  | type tokens => tokens
  | inherent target body => allow "non_upper_case_globals" ++ word "impl" ++ target ++ braced body
  | implementation borrows interface target body =>
    word "impl" ++ (if borrows then angled (lifetime "a") else []) ++ interface ++ word "for" ++
      target ++ braced body

namespace Declaration

/-- A variant of the enumeration. -/
def variantTokens (declaration : Declaration) (ident : Ident) : TokenStream :=
  name declaration.ident ++ sign "::" ++ name ident

/-- The tokens of the visibility, which the wrapper has as well. -/
def vis (declaration : Declaration) : TokenStream := declaration.visibility.tokens

/-! ### Types -/

/-- The name of the type that holds the ordinal constants. -/
def ordinalsName (declaration : Declaration) : TokenStream :=
  word (declaration.wrapper.bare ++ "Ordinals")

/-- The type of the wrapper. -/
def wrapperType (declaration : Declaration) : CodeItem :=
  .type (declaration.vis ++ word "struct" ++ name declaration.wrapper ++
    parenthesized (name declaration.ident) ++ sign ";")

/-- The constant of a member in the wrapper. -/
def wrapperConstant (declaration : Declaration) (member : Member) : TokenStream :=
  declaration.vis ++ word "const" ++ name member.ident ++ sign ":" ++ word "Self" ++ sign "=" ++
    call (word "Self") (declaration.variantTokens member.ident) ++ sign ";"

/-- The constants of the wrapper, and the function that returns the variant inside. -/
def wrapperBody (declaration : Declaration) : CodeItem :=
  .inherent (name declaration.wrapper)
    (declaration.members.flatMap declaration.wrapperConstant ++
      documented " Returns the wrapped enumeration variant." ++ alwaysInline ++ declaration.vis ++
      word "const" ++ function (word "as_enum") receiver (sign "&" ++ name declaration.ident)
        (sign "&" ++ wrapped "self"))

/-- The type that holds the ordinal constants. -/
def ordinalsType (declaration : Declaration) : CodeItem :=
  .type (declaration.vis ++ word "enum" ++ declaration.ordinalsName ++ braced [])

/-- The constant of a member among the ordinals. -/
def ordinalConstant (declaration : Declaration) (member : Member) : TokenStream :=
  declaration.vis ++ word "const" ++ name member.ident ++ sign ":" ++ name declaration.ident ++
    sign "=" ++ declaration.variantTokens member.ident ++ sign ";"

/-- The ordinal constants. -/
def ordinalsBody (declaration : Declaration) : CodeItem :=
  .inherent declaration.ordinalsName (declaration.members.flatMap declaration.ordinalConstant)

/-! ### Traits that every wrapper implements -/

/-- The implementation of a trait for the wrapper. -/
def implement (declaration : Declaration) (interface body : TokenStream) : CodeItem :=
  .implementation false interface (name declaration.wrapper) body

/-- The default value, which failed conversions fall back to. -/
def defaultItems (declaration : Declaration) : List CodeItem :=
  if declaration.throwOnCastFailure then []
  else
    [declaration.implement (core ["default", "Default"])
      (alwaysInline ++ function (word "default") [] (word "Self") (call (word "Self") preset))]

/-- The discriminant of the variant inside of a wrapper. -/
def discriminant (value : String) : TokenStream :=
  call (core ["mem", "discriminant"]) (sign "&" ++ wrapped value)

/-- The comparison and the hash of wrappers, which look at discriminants. -/
def equalityItems (declaration : Declaration) : List CodeItem :=
  [declaration.implement (core ["cmp", "PartialEq"])
      (alwaysInline ++ function (word "eq")
        (receiver ++ sign "," ++ word "other" ++ sign ":" ++ sign "&" ++ word "Self") (word "bool")
        (discriminant "self" ++ sign "==" ++ discriminant "other")),
    declaration.implement (core ["cmp", "Eq"]) [],
    declaration.implement (core ["hash", "Hash"])
      (alwaysInline ++ word "fn" ++ word "hash" ++
        angled (word "__H" ++ sign ":" ++ core ["hash", "Hasher"]) ++
        parenthesized (receiver ++ sign "," ++ word "state" ++ sign ":" ++ sign "&" ++
          word "mut" ++ word "__H") ++
        braced (call (core ["hash", "Hash", "hash"])
          (sign "&" ++ discriminant "self" ++ sign "," ++ word "state")))]

/-- The arm that copies a wrapper of a variant. -/
def cloneArm (declaration : Declaration) (ident : Ident) : TokenStream :=
  declaration.variantTokens ident ++ sign "=>" ++
    call (word "Self") (declaration.variantTokens ident)

/-- How a variant is shown to a programmer. -/
def debugText (declaration : Declaration) (ident : Ident) : String :=
  declaration.wrapper.text ++ "(" ++ declaration.ident.text ++ "::" ++ ident.text ++ ")"

/-- The arm that shows a wrapper of a variant. -/
def debugArm (declaration : Declaration) (ident : Ident) : TokenStream :=
  declaration.variantTokens ident ++ sign "=>" ++
    [.literal (String.ofList (Text.quote (declaration.debugText ident).toList)) .nowhere]

/-- A function that writes to a formatter. -/
def formatting (body : TokenStream) : TokenStream :=
  function (word "fmt")
    (receiver ++ sign "," ++ word "f" ++ sign ":" ++ sign "&" ++ word "mut" ++
      core ["fmt", "Formatter"] ++ angled (lifetime "_"))
    (core ["fmt", "Result"]) body

/-- Writes a text. -/
def writeStr (text : TokenStream) : TokenStream :=
  call (word "f" ++ sign "." ++ word "write_str") text

/-- The copy of a wrapper. -/
def cloneItem (declaration : Declaration) : CodeItem :=
  declaration.implement (core ["clone", "Clone"])
    (alwaysInline ++ function (word "clone") receiver (word "Self")
      (matching (wrapped "self") (commas (declaration.variants.map declaration.cloneArm))))

/-- A wrapper as it is shown for debugging. -/
def debugItem (declaration : Declaration) : CodeItem :=
  declaration.implement (core ["fmt", "Debug"])
    (formatting (writeStr (matching (wrapped "self")
      (commas (declaration.variants.map declaration.debugArm)))))

/-! ### Conversions -/

/-- The expression of an entry. -/
def entryTokens (declaration : Declaration) : Entry → TokenStream
  | .ordinal ordinal => Ordinal.tokens declaration.repr ordinal
  | .variant ident => declaration.variantTokens ident
  | .value value => value.tokens

/-- The pattern of an entry. -/
def patternTokens (declaration : Declaration) : Entry → TokenStream
  | .value value => value.pattern
  | entry => declaration.entryTokens entry

/-- The expression that an arm returns. -/
def resultTokens (declaration : Declaration) : ArmResult → TokenStream
  | .entry entry => declaration.entryTokens entry
  | .constant ident => word "Self" ++ sign "::" ++ name ident

/-- An arm of a conversion. -/
def armTokens (declaration : Declaration) (arm : Arm) : TokenStream :=
  let pattern := declaration.patternTokens arm.accepts
  let result := declaration.resultTokens arm.result
  (if arm.guarded then
      word "__value" ++ word "if" ++ word "__value" ++ sign "==" ++ pattern
    else pattern) ++
    sign "=>" ++ (if declaration.throwOnCastFailure then accepted result else result) ++ sign ","

/-- What no arm accepts. -/
def fallbackArm (declaration : Declaration) : TokenStream :=
  word "_" ++ sign "=>" ++ if declaration.throwOnCastFailure then refused (word "value") else preset

/-- The type that a slot converts to. -/
def outputType (declaration : Declaration) : Slot → TokenStream
  | .ordinal => word declaration.repr.name
  | .enumeration => name declaration.ident
  | .value _ type => type.output

/-- The type that a slot converts from. -/
def inputType (declaration : Declaration) : Slot → TokenStream
  | .ordinal => word declaration.repr.name
  | .enumeration => name declaration.ident
  | .value _ type => type.input

/-- Whether the type of a slot borrows what it is converted from. -/
def borrows : Slot → Bool
  | .value _ type => type.isBorrowed
  | _ => false

/-- The trait of a conversion from some type. -/
def conversionTrait (declaration : Declaration) (source : TokenStream) : TokenStream :=
  core ["convert", if declaration.throwOnCastFailure then "TryFrom" else "From"] ++ angled source

/-- A type seen as an implementation of the conversion from some type. -/
def converting (declaration : Declaration) (target source : TokenStream) : TokenStream :=
  sign "<" ++ target ++ word "as" ++
    core ["convert", if declaration.throwOnCastFailure then "TryFrom" else "From"] ++ sign "<" ++
    source ++ sign ">>"

/-- The implementation of a conversion from `source` to `target`. -/
def conversionItem (declaration : Declaration) (borrows : Bool) (source target input : TokenStream)
    (arms : List Arm) : CodeItem :=
  let body := matching input (arms.flatMap declaration.armTokens ++ declaration.fallbackArm)
  let parameters := word "value" ++ sign ":" ++ source
  .implementation borrows (declaration.conversionTrait source) target <|
    if declaration.throwOnCastFailure then
      word "type" ++ word "Error" ++ sign "=" ++ source ++ sign ";" ++
        allow "unreachable_patterns" ++ alwaysInline ++
        function (word "try_from") parameters
          (core ["result", "Result"] ++ angled (word "Self" ++ sign "," ++
            declaration.converting (word "Self") source ++ sign "::" ++ word "Error"))
          body
    else
      allow "unreachable_patterns" ++ alwaysInline ++
        function (word "from") parameters (word "Self") body

/-- Both directions of the conversion of a slot. -/
def conversionItems (declaration : Declaration) (conversion : Conversion) : List CodeItem :=
  let slot := conversion.slot
  [declaration.conversionItem false (name declaration.wrapper) (declaration.outputType slot)
      (wrapped "value") conversion.outgoing,
    declaration.conversionItem (borrows slot) (declaration.inputType slot)
      (name declaration.wrapper) (word "value") conversion.incoming]

/-- Members that hold a string are shown as it. -/
def displayItems (declaration : Declaration) : List CodeItem :=
  let converting := declaration.converting ValueType.string.output (name declaration.wrapper)
  let copy := call (core ["clone", "Clone", "clone"]) (word "self")
  if (declaration.types.getD []).any ValueType.isString then
    [declaration.implement (core ["fmt", "Display"]) <| formatting <|
      if declaration.throwOnCastFailure then
        matching (call (converting ++ sign "::" ++ word "try_from") copy)
          (accepted (word "value") ++ sign "=>" ++ writeStr (word "value") ++ sign "," ++
            refused (word "_") ++ sign "=>" ++ refused (core ["fmt", "Error"]))
      else writeStr (call (converting ++ sign "::" ++ word "from") copy)]
  else []

/-! ### All items -/

/-- All items of the code of a wrapper. -/
def items (declaration : Declaration) : List CodeItem :=
  declaration.wrapperType :: declaration.wrapperBody :: declaration.defaultItems ++
    declaration.ordinalsType :: declaration.ordinalsBody :: declaration.equalityItems ++
    declaration.cloneItem :: declaration.debugItem ::
    declaration.conversions.flatMap declaration.conversionItems ++ declaration.displayItems

/-- The code of the wrapper. -/
def tokens (declaration : Declaration) : TokenStream := declaration.items.flatMap CodeItem.tokens

end Declaration

end ValuedEnum
