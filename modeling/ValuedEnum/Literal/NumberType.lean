/-!
# Number types

The integer and float types that a literal, or the representation of an enumeration, can have.
-/

namespace ValuedEnum

/-- The integer types. -/
inductive IntegerType where
  | i8
  | i16
  | i32
  | i64
  | i128
  | isize
  | u8
  | u16
  | u32
  | u64
  | u128
  | usize
deriving DecidableEq, Repr, Inhabited

namespace IntegerType

/-- The name of an integer type. -/
def name : IntegerType → String
  | i8 => "i8"
  | i16 => "i16"
  | i32 => "i32"
  | i64 => "i64"
  | i128 => "i128"
  | isize => "isize"
  | u8 => "u8"
  | u16 => "u16"
  | u32 => "u32"
  | u64 => "u64"
  | u128 => "u128"
  | usize => "usize"

/-- All integer types. -/
def all : List IntegerType :=
  [i8, i16, i32, i64, i128, isize, u8, u16, u32, u64, u128, usize]

/-- The integer type with a name. -/
def ofName? (text : String) : Option IntegerType := all.find? fun type => type.name = text

/-- Whether an integer type holds no negative numbers. -/
def isUnsigned : IntegerType → Bool
  | u8 | u16 | u32 | u64 | u128 | usize => true
  | _ => false

/-- A type is found by its name. -/
theorem ofName?_name (type : IntegerType) : ofName? type.name = some type := by
  cases type <;> decide

end IntegerType

/-- The float types. -/
inductive FloatType where
  | f32
  | f64
deriving DecidableEq, Repr, Inhabited

namespace FloatType

/-- The name of a float type. -/
def name : FloatType → String
  | f32 => "f32"
  | f64 => "f64"

/-- The float type with a name. -/
def ofName? (text : String) : Option FloatType := [f32, f64].find? fun type => type.name = text

end FloatType

end ValuedEnum
