import ValuedEnum.Grammar.Parser

/-!
# Operators

How tightly each operator between two expressions binds.
-/

namespace ValuedEnum

/-- How tightly an operator binds, the loosest one first. -/
inductive Precedence where
  | jump
  | assign
  | range
  | or
  | and
  | compare
  | bitOr
  | bitXor
  | bitAnd
  | shift
  | sum
  | product
  | cast
deriving DecidableEq, Repr, Inhabited

namespace Precedence

/-- Higher ranks bind more tightly. -/
def rank : Precedence → Nat
  | jump => 0
  | assign => 1
  | range => 2
  | or => 3
  | and => 4
  | compare => 5
  | bitOr => 6
  | bitXor => 7
  | bitAnd => 8
  | shift => 9
  | sum => 10
  | product => 11
  | cast => 12

end Precedence

/-- The operators with two operands; an operator stands in front of its own beginnings. -/
def binaryOperators : List (String × Precedence) :=
  [("+=", .assign), ("-=", .assign), ("*=", .assign), ("/=", .assign), ("%=", .assign),
    ("^=", .assign), ("&=", .assign), ("|=", .assign), ("<<=", .assign), (">>=", .assign),
    ("&&", .and), ("||", .or), ("<<", .shift), (">>", .shift), ("==", .compare), ("<=", .compare),
    ("!=", .compare), (">=", .compare), ("+", .sum), ("-", .sum), ("*", .product), ("/", .product),
    ("%", .product), ("^", .bitXor), ("&", .bitAnd), ("|", .bitOr), ("<", .compare),
    (">", .compare)]

/-- The operator between two expressions that comes next. -/
def TokenStream.operator? (tokens : TokenStream) : Option (String × Precedence) :=
  binaryOperators.find? fun entry => tokens.startsWith (.sign entry.1)

/-- How tightly the next token binds what stands in front of it. -/
def TokenStream.precedence (tokens : TokenStream) : Precedence :=
  match tokens.operator? with
  | some (_, precedence) => precedence
  | none =>
    if tokens.startsWith (.sign "=") && !tokens.startsWith (.sign "=>") then .assign
    else if tokens.startsWith (.sign "..") then .range
    else if tokens.startsWith (.word "as") then .cast
    else .jump

end ValuedEnum
