import ValuedEnum.Literal.Basic

/-!
# Expressions

Literals, signs in front of an expression and invisible groups are told apart; of all other
expressions only the tokens matter, and the form as far as the grammar around them asks for it.
-/

namespace ValuedEnum

/-- The form of an expression that is no literal. -/
inductive ExprForm where
  /-- A path without attributes: whether it starts with a type, and whether it has no arguments. -/
  | path (qualified plain : Bool)
  | range (sign : Span)
  | comparison
  /-- An expression that ends a statement without a semicolon. -/
  | block
  | invocation (braced : Bool)
  | compound
deriving DecidableEq, Repr, Inhabited

/-- An expression, as far as values and discriminants are read from it. -/
inductive Expr where
  | literal (attributes : TokenStream) (lit : Lit)
  | unary (attributes : TokenStream) (operator : Char) (sign : Span) (operand : Expr)
  | group (attributes : TokenStream) (inner : Expr) (span : Span)
  | other (form : ExprForm) (tokens : TokenStream)
deriving Repr, Inhabited

namespace Expr

/-- The tokens of an expression. -/
def tokens : Expr → TokenStream
  | literal attributes lit => attributes ++ lit.tokens
  | unary attributes operator sign operand =>
    attributes ++ .punct operator .alone sign :: operand.tokens
  | group attributes inner span => attributes ++ [.group .invisible inner.tokens span]
  | other _ tokens => tokens

/-- From the first token of an expression to the last one. -/
def span (expr : Expr) : Span := expr.tokens.span

/-- The same expression with attributes in front. -/
def withAttributes (front : TokenStream) : Expr → Expr
  | literal attributes lit => literal (front ++ attributes) lit
  | unary attributes operator sign operand => unary (front ++ attributes) operator sign operand
  | group attributes inner span => group (front ++ attributes) inner span
  | other (.path qualified plain) tokens =>
    other (if front.isEmpty then .path qualified plain else .compound) (front ++ tokens)
  | other form tokens => other form (front ++ tokens)

/-- The expression below all invisible groups. -/
def ungrouped : Expr → Expr
  | group _ inner _ => inner.ungrouped
  | expr => expr

/-- Whether an expression is a range, behind which no operator may stand. -/
def isRange : Expr → Bool
  | other (.range _) _ => true
  | _ => false

/-- Whether an expression is a comparison, which may not be chained. -/
def isComparison : Expr → Bool
  | other .comparison _ => true
  | _ => false

/-- Whether an expression ends with a block. -/
def isBlock : Expr → Bool
  | other .block _ => true
  | _ => false

end Expr

end ValuedEnum
