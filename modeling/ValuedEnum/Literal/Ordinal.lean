import ValuedEnum.Literal.NumberType
import ValuedEnum.Source.Expr

/-!
# Ordinals

An ordinal is a word of 64 bits. Magnitudes from 2^63 on and their negations wrap around, and an
unsigned representation reads the word as unsigned again.
-/

namespace ValuedEnum

namespace Ordinal

/-- The word for an integer literal below 2^64. -/
def ofLit? (lit : Lit) : Option Int64 :=
  match lit.kind with
  | .integer value _ => if value < UInt64.size then some (Int64.ofNat value) else none
  | _ => none

/-- The ordinal that an expression denotes, if it is an integer literal, perhaps behind a minus
sign. Invisible groups around the expression or the literal do not matter. -/
def ofExpr? : Expr → Option Int64
  | .literal _ lit => ofLit? lit
  | .group _ inner _ => ofExpr? inner
  | .unary _ '-' _ operand =>
    match operand.ungrouped with
    | .literal _ lit => (ofLit? lit).map (- ·)
    | _ => none
  | _ => none

/-- A number as a literal without a suffix. -/
def digits (n : Nat) : TokenStream := [.literal (toString n) .nowhere]

/-- An ordinal as a literal without a suffix. -/
def tokens (repr : IntegerType) (ordinal : Int64) : TokenStream :=
  if repr.isUnsigned then digits ordinal.toUInt64.toNat
  else if ordinal < 0 then TokenStream.sign "-" ++ digits ordinal.toInt.natAbs
  else digits ordinal.toInt.natAbs

end Ordinal

end ValuedEnum
