import ValuedEnum.Grammar.ItemRule

/-!
# Reading a source

The rules of all phrases are tied together by a depth, which each phrase inside of another one uses
up by one. The depth that is given suffices: a phrase stands at most a few phrases above the token
that it uses up first.
-/

namespace ValuedEnum

namespace Grammar

/-- The parser of a phrase, given the parsers of the phrases inside of it. -/
def step (rules : Rules) : (phrase : Phrase) → Parser phrase.Result
  | .expr structs => ExprRule.rule rules structs
  | .operand structs => ExprRule.operandRule rules structs
  | .bounded => ExprRule.boundedRule rules
  | .continuation left structs least =>
    ExprRule.continuationRule rules structs least rules.limit left
  | .type plus arguments => TypeRule.rule rules plus arguments
  | .bound => Generics.boundRule rules
  | .pattern => PatternRule.rule rules
  | .block => ItemRule.blockRule rules
  | .item attributes => ItemRule.rule rules attributes
  | .useTree root => ItemRule.useTreeRule rules root

/-- The rules with phrases inside of one another down to `depth`. -/
def rules (limit : Nat) : (depth : Nat) → Rules
  | 0 => ⟨limit, fun _ => Parser.expectedAmong []⟩
  | depth + 1 => ⟨limit, fun phrase => step (rules limit depth) phrase⟩

/-- How many phrases may stand between a token and the next one. -/
def phrasesPerToken : Nat := 8

/-- Rules that suffice for all of some tokens. -/
def rulesFor (tokens : TokenStream) : Rules :=
  let size := TokenTree.sizeAll tokens + 2
  rules size (phrasesPerToken * size)

/-- Reads all tokens of a scope by a rule. -/
def read (rule : Rules → Parser α) (scope : Scope) (tokens : TokenStream) : Except Problem α :=
  (rule (rulesFor tokens)).run scope tokens

/-- Reads some tokens as one expression. -/
def expr (scope : Scope) (tokens : TokenStream) : Except Problem Expr :=
  read (fun rules => rules.expr) scope tokens

/-- Expressions separated by commas. -/
def exprs (scope : Scope) (tokens : TokenStream) : Except Problem (List Expr) :=
  read (fun rules => return (← Parser.commaTerminated rules.limit rules.expr).1) scope tokens

/-- Reads some tokens as a visibility. -/
def visibility (scope : Scope) (tokens : TokenStream) : Except Problem Visibility :=
  Visibility.parser.run scope tokens

/-- The attributes in front of an item that is left out. -/
def attributes (scope : Scope) (tokens : TokenStream) : Except Problem (List Attribute) :=
  read Attribute.outerAll scope tokens

/-- The contents of attributes separated by commas. -/
def contents (scope : Scope) (tokens : TokenStream) :
    Except Problem (List (Path × AttributeBody)) :=
  read (fun rules => return (← Parser.commaTerminated rules.limit
    (Attribute.contentParser rules)).1) scope tokens

/-- Reads some tokens as a variant. -/
def variant (scope : Scope) (tokens : TokenStream) : Except Problem Variant :=
  read ItemRule.variant scope tokens

/-- Reads some tokens as an enumeration with its attributes. -/
def enumeration (scope : Scope) (tokens : TokenStream) : Except Problem EnumItem :=
  read (fun rules => do ItemRule.enumeration rules (← Attribute.outerAll rules)) scope tokens

/-- Reads some tokens as the items of a file. -/
def file (tokens : TokenStream) : Except Problem SourceFile :=
  read ItemRule.file .whole tokens

end Grammar

end ValuedEnum
