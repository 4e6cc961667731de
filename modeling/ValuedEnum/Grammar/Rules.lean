import ValuedEnum.Grammar.Operator
import ValuedEnum.Source.Item

/-!
# The phrases that hold each other

Expressions, types, patterns, blocks and items may stand inside of one another. The rule of each is
written over a record with the parsers of all of them.
-/

namespace ValuedEnum

/-- The form of a type, as far as the grammar around it asks for it. -/
inductive TypeForm where
  /-- A path of one segment, perhaps with arguments in angle brackets. -/
  | segment
  | path
  /-- One bound that is no path. -/
  | bound
  | group (inner : TypeForm)
  | other
deriving DecidableEq, Repr, Inhabited

namespace TypeForm

/-- Whether a type is a path, below all invisible groups. -/
def isPath : TypeForm → Bool
  | segment => true
  | path => true
  | group inner => inner.isPath
  | _ => false

end TypeForm

/-- A kind of phrase that stands inside of others. -/
inductive Phrase where
  /-- An expression; `structs` if braces behind a path belong to it. -/
  | expr (structs : Bool)
  /-- An expression without operators behind it. -/
  | operand (structs : Bool)
  /-- An expression as a statement or an arm, where one that ends with a block ends early. -/
  | bounded
  /-- What follows the left operand of operators that bind at least as tightly as `least`. -/
  | continuation (left : Expr) (structs : Bool) (least : Precedence)
  /-- A type; `plus` if it may be a sum of bounds, `arguments` if an invisible group may have
  arguments behind it. -/
  | type (plus arguments : Bool)
  /-- A lifetime, a list of captured parameters, or a trait. The result is where a bound that is no
  trait ends. -/
  | bound
  | pattern
  | block
  /-- An item behind its attributes. -/
  | item (attributes : List Attribute)
  /-- The tree of an import; `root` if it may start with `::`. -/
  | useTree (root : Bool)

/-- What is kept of a phrase. -/
abbrev Phrase.Result : Phrase → Type
  | expr _ => Expr
  | operand _ => Expr
  | bounded => Expr
  | continuation .. => Expr
  | type .. => TypeForm
  | bound => Option Span
  | pattern => Unit
  | block => Unit
  | item _ => Item
  | useTree _ => Unit

/-- The parsers of all phrases. -/
structure Rules where
  /-- How often a rule may repeat a part of itself. -/
  limit : Nat
  parse : (phrase : Phrase) → Parser phrase.Result

namespace Rules

/-- The parser of an expression. -/
def expr (rules : Rules) (structs : Bool := true) : Parser Expr := rules.parse (.expr structs)

/-- The parser of an operand. -/
def operand (rules : Rules) (structs : Bool) : Parser Expr := rules.parse (.operand structs)

/-- The parser of an expression as a statement. -/
def bounded (rules : Rules) : Parser Expr := rules.parse .bounded

/-- The parser of what follows a left operand. -/
def continuation (rules : Rules) (left : Expr) (structs : Bool) (least : Precedence) :
    Parser Expr :=
  rules.parse (.continuation left structs least)

/-- The parser of a type. -/
def type (rules : Rules) (plus : Bool := true) (arguments : Bool := true) : Parser TypeForm :=
  rules.parse (.type plus arguments)

/-- The parser of a bound. -/
def bound (rules : Rules) : Parser (Option Span) := rules.parse .bound

/-- The parser of a pattern. -/
def pattern (rules : Rules) : Parser Unit := rules.parse .pattern

/-- The parser of a block. -/
def block (rules : Rules) : Parser Unit := rules.parse .block

/-- The parser of an item behind its attributes. -/
def item (rules : Rules) (attributes : List Attribute) : Parser Item :=
  rules.parse (.item attributes)

/-- The parser of the tree of an import. -/
def useTree (rules : Rules) (root : Bool) : Parser Unit := rules.parse (.useTree root)

end Rules

end ValuedEnum
