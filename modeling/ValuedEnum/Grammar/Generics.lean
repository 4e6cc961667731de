import ValuedEnum.Grammar.Attribute

/-!
# Reading paths with arguments, bounds and generic parameters

Lifetimes are printed in front of all other arguments and parameters.
-/

namespace ValuedEnum

namespace Generics

open ValuedEnum.Parser

/-- Whether one of some tokens comes next. -/
def stopsAt (terminals : List Terminal) (tokens : TokenStream) : Bool :=
  terminals.any tokens.startsWith

/-- One colon, and not two. -/
def startsColon (tokens : TokenStream) : Bool :=
  tokens.startsWith (.sign ":") && !tokens.startsWith (.sign "::")

/-! ### Lists between angle brackets -/

/-- An element of a list: what it prints, and whether it is a lifetime. -/
structure Piece where
  tokens : TokenStream
  isLifetime : Bool

/-- The pieces of a list, each with the comma behind it. -/
def withCommas (trailing : Bool) : List Piece → List Piece
  | [] => []
  | [piece] => [⟨piece.tokens ++ if trailing then TokenStream.sign "," else [], piece.isLifetime⟩]
  | piece :: rest =>
    ⟨piece.tokens ++ TokenStream.sign ",", piece.isLifetime⟩ :: withCommas trailing rest

/-- Lifetimes in front of the other pieces. If no comma stood behind the last piece and that one
moves to the front, a comma is put behind it. -/
def arranged (trailing : Bool) (pieces : List Piece) : TokenStream :=
  let lifetimes := (withCommas trailing pieces).filter (·.isLifetime)
  let others := (withCommas trailing pieces).filter (!·.isLifetime)
  let moved := !trailing && !others.isEmpty && (pieces.getLast?.any (·.isLifetime))
  lifetimes.flatMap Piece.tokens ++ (if moved then TokenStream.sign "," else []) ++
    others.flatMap Piece.tokens

/-- The elements of a list in the order in which they are printed. -/
def pieces (rules : Rules) (piece : Parser Bool) : Parser TokenStream := do
  let (read, trailing) ← silent <| separated rules.limit "," (stopsAt [.sign ">"]) do
    let (isLifetime, tokens) ← captured piece
    return (⟨tokens, isLifetime⟩ : Piece)
  return arranged trailing read

/-! ### Arguments -/

/-- The value of an argument or a parameter that is no type. -/
def constant (rules : Rules) : Parser Unit := do
  if ← sees .literal then let _ ← literal
  else if ← sees .name then take .name
  else if ← sees (.delimited .brace) then rules.block
  else expectedAmong []

/-- Arguments between parentheses, and the result behind an arrow. -/
def callArguments (rules : Rules) : Parser Unit := do
  let _ ← delimited .parenthesis (commaTerminated rules.limit rules.type)
  if ← accept (.sign "->") then let _ ← rules.type false

/-- A lifetime with its bounds; a colon without bounds behind it is dropped. -/
def lifetimeParameter (rules : Rules) : Parser Unit := do
  Attribute.skipOuter rules
  take .lifetime
  if ← sees (.sign ":") then
    let (bounds, tokens) ← silent <| captured do
      take (.sign ":")
      let stops (tokens : TokenStream) : Bool :=
        tokens.isEmpty || stopsAt [.sign ",", .sign ">"] tokens
      joined rules.limit "+" stops (take .lifetime)
    if !bounds.isEmpty then print tokens

/-- The lifetimes that a type or bound quantifies over. -/
def quantifier (rules : Rules) : Parser Bool := do
  if ← accept (.word "for") then
    take (.sign "<")
    let _ ← separated rules.limit "," (stopsAt [.sign ">"]) (lifetimeParameter rules)
    take (.sign ">")
    return true
  else return false

/-! ### Paths -/

/-- What is known of a path that was read. -/
structure PathForm where
  qualified : Bool
  /-- The number of segments. -/
  length : Nat
  /-- Whether any segment has arguments. -/
  arguments : Bool
  /-- Whether the last segment has arguments. -/
  lastArguments : Bool
  leading : Bool

/-- The words that are whole segments. -/
def segmentWords : List Terminal := [.word "super", .word "self", .word "crate", .word "try"]

/-- An argument between angle brackets; whether it is a lifetime. -/
def argument (rules : Rules) : Parser Bool := do
  if (← sees .lifetime) && !(← seesSecond (.sign "+")) then
    take .lifetime
    return true
  if ← seesAny [.literal, .delimited .brace] then
    constant rules
    return false
  let form ← rules.type
  if form = .segment then
    if ← accept (.sign "=") then
      if ← seesAny [.literal, .delimited .brace] then constant rules else let _ ← rules.type
    else if ← accept (.sign ":") then
      let _ ← joined rules.limit "+" (stopsAt [.sign ",", .sign ">"]) rules.bound
  return false

/-- A list of arguments, perhaps behind `::`. -/
def angleArguments (rules : Rules) : Parser Unit := do
  skip (.sign "::")
  take (.sign "<")
  print (← pieces rules (argument rules))
  take (.sign ">")

/-- A segment; whether it has arguments. In an expression they stand behind `::`. -/
def segment (rules : Rules) (inExpr : Bool) : Parser Bool := do
  if ← seesAny segmentWords then
    take .anyWord
    return false
  if ← sees (.word "Self") then take .anyWord else take .name
  let tokens ← remaining
  let angle := tokens.startsWith (.sign "<") && !tokens.startsWith (.sign "<=")
  if !inExpr && angle || tokens.startsWith (.sign "::") && tokens.thirdIs (.sign "<") then
    angleArguments rules
    return true
  return false

/-- The segments behind a path while `goes` holds. -/
def moreSegments (rules : Rules) (inExpr : Bool) (goes : TokenStream → Bool) :
    (limit : Nat) → PathForm → Parser PathForm
  | 0, form => return form
  | limit + 1, form => do
    if goes (← remaining) then
      take (.sign "::")
      let arguments ← segment rules inExpr
      moreSegments rules inExpr goes limit { form with
        length := form.length + 1
        arguments := form.arguments || arguments
        lastArguments := arguments }
    else return form

/-- Whether a path goes on; it does not at `::` in front of parentheses. -/
def pathGoesOn (tokens : TokenStream) : Bool :=
  tokens.startsWith (.sign "::") && !tokens.thirdIs (.delimited .parenthesis)

/-- A path that starts with a segment. -/
def plainPath (rules : Rules) (inExpr : Bool) : Parser PathForm := do
  let leading ← accept (.sign "::")
  let arguments ← segment rules inExpr
  moreSegments rules inExpr pathGoesOn rules.limit ⟨false, 1, arguments, arguments, leading⟩

/-- Arguments between parentheses behind a path; the `::` in front of them is dropped. -/
def callPath (rules : Rules) (form : PathForm) : Parser PathForm := do
  let tokens ← remaining
  let call := tokens.startsWith (.delimited .parenthesis) ||
    tokens.startsWith (.sign "::") && tokens.thirdIs (.delimited .parenthesis)
  if !form.lastArguments && call then
    silent (skip (.sign "::"))
    callArguments rules
    return { form with arguments := true, lastArguments := true, length := form.length + 1 }
  return form

/-! ### Bounds -/

/-- The parameters that a type captures, and where their list ends. -/
def capture (rules : Rules) : Parser Span := do
  take (.word "use")
  take (.sign "<")
  let _ ← separated rules.limit "," (stopsAt [.sign ">"]) do
    if ← sees (.word "Self") then take .anyWord
    else choose [(.lifetime, take .lifetime), (.name, take .name), (.sign ">", take (.sign ">"))]
  sign ">"

/-- A trait as a bound. -/
def traitBound (rules : Rules) : Parser Unit := do
  let quantified ← quantifier rules
  if ← sees (.delimited .bracket) then let _ ← delimited .bracket (take (.word "const"))
  else skip (.word "const")
  let optional ← accept (.sign "?")
  if optional && !quantified then let _ ← quantifier rules
  let form ← plainPath rules false
  let _ ← callPath rules form

/-- A bound of a type; where one that is no trait ends. -/
def boundRule (rules : Rules) : Parser (Option Span) := do
  if ← sees .lifetime then return some (← lifetime)
  else if ← sees (.word "use") then return some (← capture rules)
  else if ← sees (.delimited .parenthesis) then
    let _ ← delimited .parenthesis (traitBound rules)
    return none
  else
    traitBound rules
    return none

/-- A path whose first part may be a type. -/
def path (rules : Rules) (inExpr : Bool) : Parser PathForm := do
  if ← accept (.sign "<") then
    let _ ← rules.type
    if ← accept (.word "as") then let _ ← plainPath rules false
    take (.sign ">")
    take (.sign "::")
    let arguments ← segment rules inExpr
    moreSegments rules inExpr (·.startsWith (.sign "::")) rules.limit
      ⟨true, 1, arguments, arguments, false⟩
  else plainPath rules inExpr

/-- Bounds of which each further one stands behind a plus sign, if those are allowed. One of them
has to be a trait; if none is, the fault is reported from `start` to the last bound. -/
def boundSum (rules : Rules) (plus : Bool) (start : Span) (fault : String) : Parser Unit := do
  let starts : List Terminal :=
    [.anyWord, .sign "::", .sign "?", .lifetime, .delimited .parenthesis, .delimited .bracket,
      .word "const"]
  let first ← rules.bound
  let rest ←
    if plus && (← accept (.sign "+")) then joined rules.limit "+" (!stopsAt starts ·) rules.bound
    else pure []
  if first.isSome && rest.all Option.isSome then
    let last := ((first :: rest).getLast?.bind id).getD start
    fail (.remark fault false) (start.through last)

/-! ### Parameters and constraints -/

/-- A type parameter; a colon without bounds behind it is dropped. -/
def typeParameter (rules : Rules) : Parser Unit := do
  take .name
  if ← sees (.sign ":") then
    let (bounds, tokens) ← silent <| captured do
      take (.sign ":")
      joined rules.limit "+" (stopsAt [.sign ",", .sign ">", .sign "="]) rules.bound
    if !bounds.isEmpty then print tokens
  if ← accept (.sign "=") then let _ ← rules.type

/-- A constant among the parameters of generics. -/
def constantParameter (rules : Rules) : Parser Unit := do
  take (.word "const")
  take .name
  take (.sign ":")
  let _ ← rules.type
  if ← accept (.sign "=") then constant rules

/-- A parameter; whether it is a lifetime. -/
def parameter (rules : Rules) : Parser Bool := do
  Attribute.skipOuter rules
  if ← sees .lifetime then
    lifetimeParameter rules
    return true
  else if ← sees .name then typeParameter rules
  else if ← sees (.word "const") then constantParameter rules
  else if ← sees .underscore then take .anyWord
  else expectedAmong [.lifetime, .name, .word "const"]
  return false

/-- Parameters between angle brackets; an empty list is dropped. -/
def parameters (rules : Rules) : Parser Unit := do
  if ← sees (.sign "<") then
    let tokens ← silent do
      take (.sign "<")
      let tokens ← pieces rules (parameter rules)
      take (.sign ">")
      return tokens
    if !tokens.isEmpty then print (TokenStream.angled tokens)

/-- Where constraints end. -/
def constraintStop (tokens : TokenStream) : Bool :=
  tokens.isEmpty || stopsAt [.delimited .brace, .sign ",", .sign ";", .sign "="] tokens ||
    startsColon tokens

/-- One constraint on a lifetime or on a type. -/
def constraint (rules : Rules) : Parser Unit := do
  if (← sees .lifetime) && (← seesSecond (.sign ":")) then
    take .lifetime
    take (.sign ":")
    let _ ← joined rules.limit "+" constraintStop (take .lifetime)
  else
    let _ ← quantifier rules
    let _ ← rules.type
    take (.sign ":")
    let _ ← joined rules.limit "+" constraintStop rules.bound

/-- Constraints behind `where`; the word is dropped if there are none. -/
def constraints (rules : Rules) : Parser Unit := do
  if ← sees (.word "where") then
    let (read, tokens) ← silent <| captured do
      take (.word "where")
      joined rules.limit "," constraintStop (constraint rules)
    if !read.isEmpty then print tokens

end Generics

end ValuedEnum
