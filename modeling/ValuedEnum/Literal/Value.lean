import ValuedEnum.Literal.NumberType
import ValuedEnum.Source.Expr

/-!
# Values of variants

The values attached to a variant are literals; a number may stand behind one minus sign. Each value
has a type, which its suffix decides if there is one.

The types are closed. A number has one of the number types, as it is documented for the types of
literals, and not just any text as the name of its type: generated code would not be well-formed
with a name that is none.
-/

namespace ValuedEnum

/-- The type of a literal. Integers and floats have one of the number types, never a type that is
only named. -/
inductive ValueType where
  | string
  | byteString
  | char
  | bool
  | integer (type : IntegerType)
  | float (type : FloatType)
deriving DecidableEq, Repr, Inhabited

namespace ValueType

/-- The type as it is shown to a reader. -/
def name : ValueType → String
  | string => "&'static str"
  | byteString => "&'static [u8]"
  | char => "char"
  | bool => "bool"
  | integer type => type.name
  | float type => type.name

/-- Whether values of a type are strings. -/
def isString : ValueType → Bool
  | string => true
  | _ => false

/-- Whether values of a type are floats. -/
def isFloat : ValueType → Bool
  | float _ => true
  | _ => false

/-- Values of borrowed types are accepted with any lifetime. -/
def isBorrowed : ValueType → Bool
  | string | byteString => true
  | _ => false

/-- Whether values of a type are unsigned integers. -/
def isUnsigned : ValueType → Bool
  | integer type => type.isUnsigned
  | _ => false

/-- A reference with a lifetime. -/
def borrowed (lifetime : String) (target : TokenStream) : TokenStream :=
  TokenStream.sign "&" ++ .punct '\x27' .joint .nowhere :: TokenStream.word lifetime ++ target

/-- The type with a lifetime for what it borrows. -/
def tokens (lifetime : String) : ValueType → TokenStream
  | string => borrowed lifetime (TokenStream.word "str")
  | byteString => borrowed lifetime (TokenStream.bracketed (TokenStream.word "u8"))
  | type => TokenStream.word type.name

/-- The type of what a conversion returns. -/
def output (type : ValueType) : TokenStream := type.tokens "static"

/-- The type of what a conversion takes. -/
def input (type : ValueType) : TokenStream := type.tokens "a"

/-- The type that a suffix names, or the given one if there is no suffix. -/
def ofSuffix (suffix : List Char) (preset : ValueType) (named : String → Option ValueType)
    (fault : Problem) : Except Problem ValueType :=
  if suffix.isEmpty then .ok preset
  else
    match named (String.ofList suffix) with
    | some type => .ok type
    | none => .error fault

/-- The type of a literal. -/
def ofLit (lit : Lit) : Except Problem ValueType :=
  match lit.kind with
  | .string .. => .ok string
  | .byteString => .ok byteString
  | .byte => .ok (integer .u8)
  | .char => .ok char
  | .bool _ => .ok bool
  | .integer _ suffix =>
    ofSuffix suffix (integer .i32) (fun text => (IntegerType.ofName? text).map integer)
      ⟨.notAnIntegerSuffix, lit.span⟩
  | .float suffix =>
    ofSuffix suffix (float .f64) (fun text => (FloatType.ofName? text).map float)
      ⟨.notAFloatSuffix, lit.span⟩
  | .cString | .other => .error ⟨.unsupportedLiteral, lit.span⟩

end ValueType

/-- A literal with its type, perhaps behind a minus sign. The type is the host's choice, and need
not be that of the literal. -/
structure Value where
  type : ValueType
  negative : Bool
  lit : Lit
deriving DecidableEq, Repr, Inhabited

namespace Value

/-- The value of an expression that is a literal, or a number behind a minus sign. Invisible groups
around the expression do not matter, but one around the number does. -/
def ofExpr : Expr → Except Problem Value
  | .literal _ lit => do
    return ⟨← ValueType.ofLit lit, false, lit⟩
  | .unary attributes operator sign operand =>
    let span := (Expr.unary attributes operator sign operand).span
    match operator, operand with
    | '-', .literal _ lit =>
      if lit.isNumber then do
        let type ← ValueType.ofLit lit
        if type.isUnsigned then .error ⟨.notSigned, span⟩ else .ok ⟨type, true, lit⟩
      else .error ⟨.notALiteral, span⟩
    | _, _ => .error ⟨.notALiteral, span⟩
  | .group _ inner _ => ofExpr inner
  | .other form tokens => .error ⟨.notALiteral, (Expr.other form tokens).span⟩

/-- The values of some expressions, up to the first one that is none. -/
def ofExprs : List Expr → Except Problem (List Value)
  | [] => .ok []
  | expr :: rest => do
    let value ← ofExpr expr
    return value :: (← ofExprs rest)

/-- The value where a pattern is expected. -/
def pattern (value : Value) : TokenStream :=
  (if value.negative then TokenStream.sign "-" else []) ++ value.lit.tokens

/-- The value where an expression is expected: a byte string stands for the slice of its bytes. -/
def tokens (value : Value) : TokenStream :=
  match value.type with
  | .byteString =>
    TokenStream.sign "&" ++ value.pattern ++ TokenStream.bracketed (TokenStream.sign "..")
  | _ => value.pattern

end Value

end ValuedEnum
