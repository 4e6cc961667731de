import ValuedEnum.Grammar.PatternRule

/-!
# Reading expressions

Operators are read by precedence climbing. A unary operator holds what follows it up to the next
operator with two operands; calls, fields and indices belong to the operand in front of them.
-/

namespace ValuedEnum

namespace ExprRule

open ValuedEnum.Parser Generics

/-- An expression of which only the tokens matter. -/
def compound (form : ExprForm) (parser : Parser Unit) : Parser Expr := do
  let (_, tokens) ← captured parser
  return .other form tokens

/-- An expression that starts with another one. -/
def extended (left : Expr) (form : ExprForm) (parser : Parser Unit) : Parser Expr := do
  let (_, tokens) ← captured parser
  return .other form (left.tokens ++ tokens)

/-- The attributes in front of an expression, but none from inside of an invisible group. -/
def attributes (rules : Rules) : Parser TokenStream := do
  let starts (tokens : TokenStream) : Bool :=
    match tokens with
    | .group .invisible _ _ :: _ => false
    | _ => tokens.startsWith (.sign "#")
  let (_, tokens) ← captured (whileSeen rules.limit starts (Attribute.outerParser rules))
  return tokens

/-- The arguments of a call. -/
def arguments (rules : Rules) : Parser Unit := do
  let _ ← delimited .parenthesis (commaTerminated rules.limit rules.expr)

/-! ### Behind an operand -/

/-- A dot, and not the sign of a range. -/
def startsDot (tokens : TokenStream) : Bool :=
  tokens.startsWith (.sign ".") && !tokens.startsWith (.sign "..")

/-- The index of a field, as it is printed. -/
def index (lit : Lit) : Parser Unit := do
  match lit.kind with
  | .integer value [] =>
    if value < UInt32.size then print [.literal (toString value) lit.span]
    else fail (.remark "number too large to fit in target type" false) lit.span
  | .integer .. => fail (.remark "expected unsuffixed integer" false) lit.span
  | _ => fail (.expected .integerLiteral false) lit.span

/-- Indices that were read as one float, with dots between them. A dot at the end leaves room for
a further member. -/
def indices (span dot : Span) : List (List Char) → Parser Unit
  | [] => return
  | [part] => index ⟨String.ofList part, span⟩
  | part :: rest => do
    index ⟨String.ofList part, span⟩
    if rest != [[]] then
      print [.punct '.' .alone dot]
      indices span dot rest
    else print [.punct '.' .alone dot]

/-- The parts of a text between dots. -/
def dotted (text : List Char) : List (List Char) :=
  text.foldr (fun c parts =>
    if c = '.' then [] :: parts
    else match parts with
      | part :: rest => (c :: part) :: rest
      | [] => [[c]]) [[]]

/-- A name or an index; `true` for a name. -/
def member : Parser Bool := do
  if ← sees .name then
    take .name
    return true
  else if ← sees .integer then
    index (← silent literal)
    return false
  else remark "expected identifier or integer"

/-- A field, a method call or a waiting point behind its dot. -/
def afterDot (rules : Rules) : Parser Unit := do
  if ← accept (.word "await") then return
  let isName ← member
  let turbofish ← if isName then sees (.sign "::") else pure false
  if turbofish then
    take (.sign "::")
    angleArguments rules
  if isName && (turbofish || (← sees (.delimited .parenthesis))) then arguments rules

/-- What follows an operand from a dot on; a number with a point in it holds more than one field. -/
def dotRest (rules : Rules) : Parser Unit := do
  let dot ← sign "."
  if ← sees .float then
    let lit ← silent literal
    let parts := dotted lit.text.toList
    indices lit.span dot parts
    if parts.getLast? = some [] then afterDot rules
  else afterDot rules

/-- Calls, fields, indices and question marks behind an operand. -/
def trailers (rules : Rules) : (limit : Nat) → Expr → Parser Expr
  | 0, left => return left
  | limit + 1, left => do
    let tokens ← remaining
    if tokens.startsWith (.delimited .parenthesis) then
      trailers rules limit (← extended left .compound (arguments rules))
    else if startsDot tokens && !left.isRange then
      trailers rules limit (← extended left .compound (dotRest rules))
    else if tokens.startsWith (.delimited .bracket) then
      trailers rules limit (← extended left .compound do
        let _ ← delimited .bracket rules.expr)
    else if tokens.startsWith (.sign "?") && !left.isRange then
      trailers rules limit (← extended left .compound (take (.sign "?")))
    else return left

/-! ### Ranges -/

/-- The sign of a range, and whether the range includes its end. -/
def rangeSign : Parser (Bool × Span) := do
  if ← sees (.sign "...") then expectedAmong [.sign "..", .sign "..="]
  else if ← sees (.sign "..=") then return (true, ← sign "..=")
  else if ← sees (.sign "..") then return (false, ← sign "..")
  else expectedAmong [.sign ".."]

/-- The tokens in front of which an open range ends. -/
def rangeStops (structs : Bool) (tokens : TokenStream) : Bool :=
  tokens.isEmpty || startsDot tokens || !structs && tokens.startsWith (.delimited .brace) ||
    stopsAt [.sign ",", .sign ";", .sign "?", .sign "=>", .sign "=", .sign "+", .sign "/",
      .sign "%", .sign "^", .sign ">", .sign "<=", .sign "!=", .sign "-=", .sign "*=", .sign "&=",
      .sign "|=", .sign "<<=", .word "as"] tokens

/-- The right operand of an operator, with all that binds more tightly. -/
def rightOperand (rules : Rules) (structs : Bool) (precedence : Precedence) : Parser Expr := do
  climb rules.limit (← rules.operand structs)
where
  climb : (limit : Nat) → Expr → Parser Expr
    | 0, right => return right
    | limit + 1, right => do
      let tokens ← remaining
      let next := tokens.precedence
      if precedence.rank < next.rank || next = precedence && precedence = .assign then
        let longer ← rules.continuation right structs next
        if TokenTree.sizeAll (← remaining) = TokenTree.sizeAll tokens then return longer
        else climb limit longer
      else return right

/-- The end of a range behind its sign, where the range has one or must have one. -/
def rangeRest (rules : Rules) (structs closed : Bool) : Parser Unit := do
  if closed || !rangeStops structs (← remaining) then
    let _ ← rightOperand rules structs .range

/-! ### Operators with two operands -/

/-- What may not follow a cast. -/
def castEnd : Parser Unit := do
  let kind? : Option String ←
    if startsDot (← remaining) then
      if ← seesSecond (.word "await") then pure (some "`.await`")
      else if (← seesSecond .name) &&
          ((← seesThird (.delimited .parenthesis)) || (← seesThird (.sign "::"))) then
        pure (some "a method call")
      else pure (some "a field access")
    else if ← sees (.sign "?") then pure (some "`?`")
    else if ← sees (.delimited .bracket) then pure (some "indexing")
    else if ← sees (.delimited .parenthesis) then pure (some "a function call")
    else pure none
  match kind? with
  | some kind => remark ("casts cannot be followed by " ++ kind)
  | none => return

/-- Operators that bind at least as tightly as `least`, each one with its right operand. -/
def continuationRule (rules : Rules) (structs : Bool) (least : Precedence) :
    (limit : Nat) → Expr → Parser Expr
  | 0, left => return left
  | limit + 1, left => do
    let tokens ← remaining
    if left.isRange then return left
    match tokens.operator? with
    | some (operator, precedence) =>
      if precedence.rank < least.rank then return left
      if precedence = .compare && left.isComparison then
        remark "comparison operators cannot be chained"
      let form : ExprForm := if precedence = .compare then .comparison else .compound
      continuationRule rules structs least limit (← extended left form do
        take (.sign operator)
        let _ ← rightOperand rules structs precedence)
    | none =>
      if least.rank ≤ Precedence.assign.rank && tokens.startsWith (.sign "=") &&
          !tokens.startsWith (.sign "==") && !tokens.startsWith (.sign "=>") then
        continuationRule rules structs least limit (← extended left .compound do
          take (.sign "=")
          let _ ← rightOperand rules structs .assign)
      else if least.rank ≤ Precedence.range.rank && tokens.startsWith (.sign "..") then
        let ((closed, span), front) ← captured rangeSign
        let (_, back) ← captured (rangeRest rules structs closed)
        continuationRule rules structs least limit
          (.other (.range span) (left.tokens ++ front ++ back))
      else if least.rank ≤ Precedence.cast.rank && tokens.startsWith (.word "as") then
        continuationRule rules structs least limit (← extended left .compound do
          take (.word "as")
          let _ ← rules.type false false
          castEnd)
      else return left

/-! ### Paths, invocations and structs -/

/-- A field of a struct expression, or the sign for all others. -/
def structField (rules : Rules) : Parser Unit := do
  Attribute.skipOuter rules
  let isName ← member
  if !isName || (← sees (.sign ":")) then
    take (.sign ":")
    let _ ← rules.expr

/-- The fields of a struct, perhaps with a base behind `..`. -/
def structFields (rules : Rules) : (limit : Nat) → Parser Unit
  | 0 => return
  | limit + 1 => do
    if ← atEnd then return
    if ← accept (.sign "..") then
      if !(← atEnd) then let _ ← rules.expr
    else
      structField rules
      if ← atEnd then return
      take (.sign ",")
      structFields rules limit

/-- What may follow a path: an invocation or the fields of a struct. -/
def pathRest (rules : Rules) (structs : Bool) (form : PathForm) : Parser ExprForm := do
  let tokens ← remaining
  if tokens.startsWith (.sign "!") && !tokens.startsWith (.sign "!=") && !form.qualified &&
      !form.arguments then
    take (.sign "!")
    let (delimiter, _, _) ← verbatimGroup
    return .invocation (delimiter = .brace)
  if structs && tokens.startsWith (.delimited .brace) then
    let _ ← delimited .brace (structFields rules rules.limit)
    return .compound
  return .path form.qualified (!form.arguments)

/-- A path, perhaps as the name of an invocation or of a struct with its fields. -/
def pathExpr (rules : Rules) (structs : Bool) : Parser Expr := do
  let (form, tokens) ← captured do
    let form ← path rules true
    pathRest rules structs form
  return .other form tokens

/-- An expression in an invisible group. A path in one goes on behind the group. -/
def groupExpr (rules : Rules) (structs : Bool) : Parser Expr := do
  let (inner, span) ← delimited .invisible rules.expr
  match inner with
  | .other (.path qualified plain) tokens =>
    let (form, more) ← captured do
      let form ← moreSegments rules true pathGoesOn rules.limit
        ⟨qualified, 0, !plain, false, false⟩
      let rest ← pathRest rules structs form
      return (form.length, rest)
    match form with
    | (0, .path ..) => return .group [] inner span
    | (_, rest) => return .other rest (tokens ++ more)
  | _ => return .group [] inner span

/-! ### Parentheses and brackets -/

/-- An expression in parentheses, or a tuple. -/
def parenthesized (rules : Rules) : Parser Unit := do
  let _ ← delimited .parenthesis (commaTerminated rules.limit rules.expr)

/-- An array, by its elements or by one of them and a length. -/
def bracketed (rules : Rules) : Parser Unit := do
  let _ ← delimited .bracket do
    if ← atEnd then return
    let _ ← rules.expr
    if (← atEnd) then return
    if ← accept (.sign ",") then
      let _ ← commaTerminated rules.limit rules.expr
    else if ← accept (.sign ";") then
      let _ ← rules.expr
    else remark "expected `,` or `;`"

/-! ### Control flow -/

/-- Whether an expression may start here. -/
def startsExpr (tokens : TokenStream) : Bool :=
  let alone (sign : String) (longer : List String) : Bool :=
    tokens.startsWith (.sign sign) && !longer.any fun text => tokens.startsWith (.sign text)
  stopsAt [.anyWord, .delimited .parenthesis, .delimited .bracket, .delimited .brace, .literal,
      .sign "..", .sign "::", .lifetime, .sign "#"] tokens ||
    alone "!" ["!="] || alone "-" ["-=", "->"] || alone "*" ["*="] || alone "|" ["|="] ||
    alone "&" ["&="] || alone "<" ["<=", "<<="]

/-- An expression where braces behind a path do not belong to it. -/
def condition (rules : Rules) : Parser Unit := do let _ ← rules.expr false

/-- A condition with its branch, and further ones behind `else if`. -/
def branches (rules : Rules) : (limit : Nat) → Parser Unit
  | 0 => return
  | limit + 1 => do
    take (.word "if")
    condition rules
    rules.block
    if ← accept (.word "else") then
      choose [(.word "if", branches rules limit), (.delimited .brace, rules.block)]

/-- A loop without a condition. -/
def loopExpr (rules : Rules) : Parser Unit := do
  take (.word "loop")
  rules.block

/-- A loop with a condition. -/
def whileExpr (rules : Rules) : Parser Unit := do
  take (.word "while")
  condition rules
  rules.block

/-- A loop over what an expression returns. -/
def forExpr (rules : Rules) : Parser Unit := do
  take (.word "for")
  PatternRule.alternatives rules
  take (.word "in")
  condition rules
  rules.block

/-- A loop or a block behind its label. -/
def labeled (rules : Rules) : Parser Unit := do
  take .lifetime
  take (.sign ":")
  if ← sees (.word "while") then whileExpr rules
  else if ← sees (.word "for") then forExpr rules
  else if ← sees (.word "loop") then loopExpr rules
  else if ← sees (.delimited .brace) then rules.block
  else remark "expected loop or block expression"

/-- A pattern as a condition. -/
def letExpr (rules : Rules) (structs : Bool) : Parser Unit := do
  take (.word "let")
  PatternRule.alternatives rules
  take (.sign "=")
  let left ← rules.operand structs
  let _ ← rules.continuation left structs .compare

/-- The end of a loop, perhaps with a label and a value. -/
def breakExpr (rules : Rules) (structs : Bool) : Parser Unit := do
  take (.word "break")
  skip .lifetime
  let tokens ← remaining
  if startsExpr tokens && (structs || !tokens.startsWith (.delimited .brace)) then
    let _ ← rules.expr

/-- A word that may have an expression behind it. -/
def jump (rules : Rules) (text : String) : Parser Unit := do
  take (.word text)
  if startsExpr (← remaining) then let _ ← rules.expr

/-- A parameter of a closure, perhaps with its type. -/
def closureArgument (rules : Rules) : Parser Unit := do
  Attribute.skipOuter rules
  rules.pattern
  if ← accept (.sign ":") then let _ ← rules.type

/-- A closure with its modifiers, its parameters and its body. -/
def closure (rules : Rules) (structs : Bool) : Parser Unit := do
  let _ ← quantifier rules
  skip (.word "const")
  skip (.word "static")
  skip (.word "async")
  skip (.word "move")
  take (.sign "|")
  let _ ← separated rules.limit "," (stopsAt [.sign "|"]) (closureArgument rules)
  take (.sign "|")
  if ← accept (.sign "->") then
    let _ ← rules.type
    rules.block
  else let _ ← rules.expr structs

/-! ### Expressions that end a statement -/

/-- The forms that need no comma behind an arm and no semicolon behind a statement. -/
def startsBlock (tokens : TokenStream) : Bool :=
  let closure := tokens.secondIs (.sign "<") &&
    (tokens.thirdIs .lifetime || tokens.thirdIs (.sign ">"))
  let braced := tokens.secondIs (.delimited .brace)
  stopsAt [.word "if", .word "while", .word "loop", .word "match", .word "unsafe",
      .delimited .brace, .lifetime] tokens ||
    tokens.startsWith (.word "for") && !closure ||
    tokens.startsWith (.word "try") && braced || tokens.startsWith (.word "const") && braced

/-- An arm of a match; the comma behind it may be left out at the end and behind a block. -/
def arm (rules : Rules) : Parser Unit := do
  Attribute.skipOuter rules
  PatternRule.alternatives rules
  if ← accept (.word "if") then let _ ← rules.expr
  take (.sign "=>")
  let body ← rules.bounded
  if !body.isBlock && !(← atEnd) then take (.sign ",") else skip (.sign ",")

/-- A match with its arms. -/
def matchExpr (rules : Rules) : Parser Unit := do
  take (.word "match")
  condition rules
  let _ ← delimited .brace do
    Attribute.skipInner rules
    let _ ← untilEnd rules.limit (arm rules)

/-- An expression that ends with a block: a condition, a loop, a match, or a block by itself. -/
def blockExpr (rules : Rules) : Parser Expr :=
  compound .block do
    let tokens ← remaining
    if tokens.startsWith (.word "if") then branches rules rules.limit
    else if tokens.startsWith (.word "while") then whileExpr rules
    else if tokens.startsWith (.word "for") then forExpr rules
    else if tokens.startsWith (.word "loop") then loopExpr rules
    else if tokens.startsWith (.word "match") then matchExpr rules
    else if tokens.startsWith .lifetime then labeled rules
    else
      if stopsAt [.word "unsafe", .word "try", .word "const"] tokens then take .anyWord
      rules.block

/-! ### Operands -/

/-- Whether an asynchronous block comes next. -/
def startsAsync (tokens : TokenStream) : Bool :=
  tokens.startsWith (.word "async") && (tokens.secondIs (.delimited .brace) ||
    tokens.secondIs (.word "move") && tokens.thirdIs (.delimited .brace))

/-- Whether a closure comes next. -/
def startsClosure (tokens : TokenStream) : Bool :=
  stopsAt [.sign "|", .word "move", .word "for", .word "const", .word "static"] tokens ||
    tokens.startsWith (.word "async") &&
      (tokens.secondIs (.sign "|") || tokens.secondIs (.word "move"))

/-- Whether a path comes next. -/
def startsPath (tokens : TokenStream) : Bool :=
  stopsAt [.name, .sign "::", .sign "<", .word "self", .word "Self", .word "super",
      .word "crate"] tokens ||
    tokens.startsWith (.word "try") && (tokens.secondIs (.sign "!") || tokens.secondIs (.sign "::"))

/-- An operation of the compiler with its arguments. -/
def builtin : Parser Unit := do
  take .anyWord
  take (.sign "#")
  take .name
  if ← sees (.delimited .parenthesis) then let _ ← verbatimGroup
  else expected (.delimited .parenthesis)

/-- An expression without signs in front of it and without anything behind it. -/
def atom (rules : Rules) (structs : Bool) : Parser Expr := do
  match ← remaining with
  | .group .invisible _ _ :: _ => groupExpr rules structs
  | tokens =>
    if tokens.startsWith .literal then return .literal [] (← literal)
    else if startsAsync tokens then
      compound .compound do
        take (.word "async")
        skip (.word "move")
        rules.block
    else if startsBlock tokens then blockExpr rules
    else if startsClosure tokens then compound .compound (closure rules structs)
    else if tokens.startsWith (.word "builtin") && tokens.secondIs (.sign "#") then
      compound .compound builtin
    else if startsPath tokens then pathExpr rules structs
    else if tokens.startsWith (.delimited .parenthesis) then
      compound .compound (parenthesized rules)
    else if tokens.startsWith (.word "break") then compound .compound (breakExpr rules structs)
    else if tokens.startsWith (.word "continue") then
      compound .compound do
        take (.word "continue")
        skip .lifetime
    else if tokens.startsWith (.word "return") then compound .compound (jump rules "return")
    else if tokens.startsWith (.word "become") then
      compound .compound do
        take (.word "become")
        let _ ← rules.expr
    else if tokens.startsWith (.delimited .bracket) then compound .compound (bracketed rules)
    else if tokens.startsWith (.word "let") then compound .compound (letExpr rules structs)
    else if tokens.startsWith (.word "yield") then compound .compound (jump rules "yield")
    else if tokens.startsWith (.sign "..") then
      let ((closed, span), front) ← captured rangeSign
      let (_, back) ← captured (rangeRest rules structs closed)
      return .other (.range span) (front ++ back)
    else if tokens.startsWith .underscore then compound .compound (take .anyWord)
    else expected .expression

/-- An atom with what belongs to it, behind its attributes. -/
def trailed (rules : Rules) (structs : Bool) (front : TokenStream) : Parser Expr := do
  let expr ← trailers rules rules.limit (← atom rules structs)
  match expr with
  | .other (.range sign) _ =>
    if front.isEmpty then return expr else fail (.expected .expression false) sign
  | _ => return expr.withAttributes front

/-- A reference, perhaps a raw one. -/
def referenceExpr (rules : Rules) (structs : Bool) : Parser Unit := do
  take (.sign "&")
  let raw := (← sees (.word "raw")) &&
    ((← seesSecond (.word "mut")) || (← seesSecond (.word "const")))
  if raw then take (.word "raw")
  if !(← accept (.word "mut")) && raw then take (.word "const")
  let _ ← rules.operand structs

/-- An expression with the signs in front of it and with what trails it. -/
def operandRule (rules : Rules) (structs : Bool) : Parser Expr := do
  let front ← attributes rules
  match ← remaining with
  | .group .invisible _ _ :: _ => trailed rules structs front
  | tokens =>
    if tokens.startsWith (.sign "&") then
      let expr ← compound .compound (referenceExpr rules structs)
      return expr.withAttributes front
    else
      match ['*', '!', '-'].find? fun c => tokens.startsWith (.sign (String.singleton c)) with
      | some operator =>
        let span ← sign (String.singleton operator)
        return .unary front operator span (← rules.operand structs)
      | none => trailed rules structs front

/-- An expression with its operators. -/
def rule (rules : Rules) (structs : Bool) : Parser Expr := do
  let left ← rules.operand structs
  rules.continuation left structs .jump

/-- An expression as a statement: one that ends with a block goes on only behind a dot or a question
mark. -/
def boundedRule (rules : Rules) : Parser Expr := do
  let front ← attributes rules
  let first ←
    match ← remaining with
    | .group .invisible _ _ :: _ =>
      let inner ← groupExpr rules true
      if inner.ungrouped.isBlock then pure inner else trailers rules rules.limit inner
    | tokens => if startsBlock tokens then blockExpr rules else rules.operand true
  if !first.ungrouped.isBlock then
    rules.continuation (first.withAttributes front) true .jump
  else
    let tokens ← remaining
    if startsDot tokens || tokens.startsWith (.sign "?") then
      let longer ← trailers rules rules.limit first
      rules.continuation (longer.withAttributes front) true .jump
    else return first.withAttributes front

end ExprRule

end ValuedEnum
