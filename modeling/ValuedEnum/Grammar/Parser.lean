import ValuedEnum.Grammar.Terminal

/-!
# Reading phrases

A parser reads tokens up to the end of a scope, and prints the tokens that make up what it has
read. Tokens that are left over in a group do not stop it; they are reported when all is read.
-/

namespace ValuedEnum

/-- What a parser may use up ends at a closing delimiter, or at the end of a text. -/
structure Scope where
  stop : Span
  delimiter : Delimiter
deriving Repr, Inhabited

/-- The scope of a whole text. -/
def Scope.whole : Scope := ⟨.nowhere, .invisible⟩

/-- Where a reader stands, with what it has printed so far. -/
structure Reading where
  rest : TokenStream
  /-- The printed tokens, last one first. -/
  printed : TokenStream
  /-- The first token that was left over in a group. -/
  stray : Option Problem
deriving Repr, Inhabited

/-- A reader that may stop at a problem. -/
abbrev Parser := ReaderT Scope (StateT Reading (Except Problem))

namespace Parser

mutual

/-- The first visible token of a tree inside of `scope`, as a problem. -/
def strayIn (scope : Delimiter) : TokenTree → Option Problem
  | .group .invisible inner _ => strayAmong .invisible inner
  | tree => some ⟨.unexpected scope, tree.span⟩

/-- The first visible token among some trees, if they are left over. -/
def strayAmong (scope : Delimiter) : List TokenTree → Option Problem
  | [] => none
  | tree :: rest =>
    match strayIn scope tree with
    | some problem => some problem
    | none => strayAmong scope rest

end

/-- Reads all tokens of a scope. -/
def run (parser : Parser α) (scope : Scope) (tokens : TokenStream) : Except Problem α :=
  match parser scope ⟨tokens, [], none⟩ with
  | .error problem => .error problem
  | .ok (result, reading) =>
    match reading.stray with
    | some problem => .error problem
    | none =>
      match strayAmong .invisible reading.rest with
      | some problem => .error problem
      | none => .ok result

/-- The tokens that are left. -/
def remaining : Parser TokenStream := return (← get).rest

/-- Whether no tokens are left. -/
def atEnd : Parser Bool := return (← get).rest.isEmpty

/-- Where a fault at the next token is reported. -/
def location : Parser Span := do
  match (← get).rest with
  | [] => return (← read).stop
  | tree :: _ => return tree.frontSpan

/-- Stops at a problem. -/
def fail (cause : Cause) (span : Span) : Parser α := throw ⟨cause, span⟩

/-- A fault at the next token, or at the end. -/
def failHere (cause : (atEnd : Bool) → Cause) : Parser α := do
  fail (cause (← atEnd)) (← location)

/-- A fault at a token that is not the one that has to stand here. -/
def expected (what : Expectation) : Parser α := failHere (.expected what)

/-- A fault with a text of its own. -/
def remark (text : String) : Parser α := failHere (.remark text)

/-- A fault at a token that is none of those that were looked for. -/
def expectedAmong (tried : List Terminal) : Parser α := do
  let tokens ← remaining
  match Expectation.among ((tried.filter (!tokens.startsWith ·)).map Terminal.expectation) with
  | some what => expected what
  | none =>
    match tokens with
    | [] => fail .unexpectedEnd (← read).stop
    | tree :: _ => fail (.unexpected .invisible) tree.span

/-- Whether a token of a kind comes next. -/
def sees (terminal : Terminal) : Parser Bool := return (← remaining).startsWith terminal

/-- Whether a token of one of some kinds comes next. -/
def seesAny (terminals : List Terminal) : Parser Bool := return terminals.any (← remaining).startsWith

/-- Whether a token of a kind stands behind the next tree. -/
def seesSecond (terminal : Terminal) : Parser Bool := return (← remaining).secondIs terminal

/-- Whether a token of a kind stands behind the next two trees. -/
def seesThird (terminal : Terminal) : Parser Bool := return (← remaining).thirdIs terminal

/-- Prints some tokens. -/
def print (tokens : TokenStream) : Parser Unit :=
  modify fun reading => { reading with printed := tokens.reverse ++ reading.printed }

/-- Goes on at `rest` and prints what was read. -/
def advance (rest : TokenStream) (tokens : TokenStream) : Parser Unit :=
  modify fun reading =>
    { reading with rest := rest, printed := tokens.reverse ++ reading.printed }

/-! ### Tokens -/

/-- A word that is not reserved. -/
def name : Parser Ident := do
  match (← remaining).word? with
  | some (ident, rest) =>
    if ident.isName then
      advance rest [.ident ident]
      return ident
    else failHere fun _ => .keyword ident.text
  | none => expected .identifier

/-- Takes a word, reserved or not. -/
def anyWord : Parser Ident := do
  match (← remaining).word? with
  | some (ident, rest) =>
    advance rest [.ident ident]
    return ident
  | none => expected (.phrase "ident")

/-- Takes a word with a given text and returns where it stood. -/
def word (text : String) : Parser Span := do
  match (← remaining).word? with
  | some (ident, rest) =>
    if ident.text = text then
      advance rest [.ident ident]
      return ident.span
    else expected (.symbol text)
  | none => expected (.symbol text)

/-- The signs of an operator at their own places. -/
def spelled : List Char → List Span → TokenStream
  | [c], span :: _ => [.punct c .alone span]
  | c :: rest, span :: spans => .punct c .joint span :: spelled rest spans
  | _, _ => []

/-- An operator; a missing one is reported at the sign that stands in its place, and its report
does not mention the end of the scope. -/
def sign (text : String) : Parser Span := do
  let tokens ← remaining
  match tokens.sign? text.toList with
  | some (spans, rest) =>
    advance rest (spelled text.toList spans)
    match spans.head?, spans.getLast? with
    | some first, some last => return first.through last
    | _, _ => location
  | none =>
    match tokens.punct? with
    | some (_, _, span, _) => fail (.expected (.symbol text) false) span
    | none => fail (.expected (.symbol text) false) (← location)

/-- Takes a lifetime and returns where it stood. -/
def lifetime : Parser Span := do
  match (← remaining).lifetime? with
  | some (quote, ident, rest) =>
    advance rest [.punct '\x27' .joint quote, .ident ident]
    return quote.through ident.span
  | none => expected .lifetime

/-- A literal; a number may have a minus sign, which is printed on its own. -/
def literal : Parser Lit := do
  let tokens ← remaining
  match tokens.lit? with
  | some (lit, rest) =>
    advance rest lit.tokens
    return lit
  | none =>
    match tokens.negative? with
    | some (minus, lit, rest) =>
      let span := minus.through lit.span
      advance rest [.punct '-' .alone span, .literal lit.text span]
      return ⟨"-" ++ lit.text, span⟩
    | none => expected .literal

/-- A literal of a kind that has a terminal of its own. -/
def literalOf (terminal : Terminal) : Parser Lit := do
  if ← sees terminal then literal else expected terminal.expectation

/-- Any group in sight, as it is written. -/
def verbatimGroup : Parser (Delimiter × TokenStream × Span) := do
  match ← remaining with
  | .group delimiter inner span :: rest =>
    if delimiter = .invisible then expected .delimiter
    else
      advance rest [.group delimiter inner span]
      return (delimiter, inner, span)
  | _ => expected .delimiter

/-- A group whose contents are read by `content`. -/
def delimited (delimiter : Delimiter) (content : Parser α) : Parser (α × Span) := fun scope reading =>
  match reading.rest.group? delimiter with
  | none => expected (.delimited delimiter) scope reading
  | some (inner, span, rest) =>
    match content ⟨span.last, delimiter⟩ ⟨inner, [], reading.stray⟩ with
    | .error problem => .error problem
    | .ok (result, done) =>
      let stray :=
        match done.stray with
        | some problem => some problem
        | none => strayAmong delimiter done.rest
      .ok ((result, span),
        ⟨rest, .group delimiter done.printed.reverse span :: reading.printed, stray⟩)

/-- Uses up a token of a kind. -/
def take : Terminal → Parser Unit
  | .word text => do let _ ← word text
  | .sign text => do let _ ← sign text
  | .underscore => do let _ ← word "_"
  | .name => do let _ ← name
  | .anyWord => do let _ ← anyWord
  | .lifetime => do let _ ← lifetime
  | .delimited _ => do let _ ← verbatimGroup
  | terminal => do let _ ← literalOf terminal

/-- Uses up a token of a kind if it comes next. -/
def accept (terminal : Terminal) : Parser Bool := do
  if ← sees terminal then
    take terminal
    return true
  else return false

/-- Takes a token of a kind if one comes next. -/
def skip (terminal : Terminal) : Parser Unit := do let _ ← accept terminal

/-! ### Composition -/

/-- What a parser returns, and what it prints on the way. -/
def captured (parser : Parser α) : Parser (α × TokenStream) := fun scope reading =>
  match parser scope { reading with printed := [] } with
  | .error problem => .error problem
  | .ok (result, done) =>
    .ok ((result, done.printed.reverse), { done with printed := done.printed ++ reading.printed })

/-- Reads without printing. -/
def silent (parser : Parser α) : Parser α := fun scope reading =>
  match parser scope reading with
  | .error problem => .error problem
  | .ok (result, done) => .ok (result, { done with printed := reading.printed })

/-- What a parser would return; nothing is used up. -/
def ahead? (parser : Parser α) : Parser (Option α) := fun scope reading =>
  match parser scope reading with
  | .error _ => .ok (none, reading)
  | .ok (result, _) => .ok (some result, reading)

/-- Reads if that succeeds. -/
def attempt? (parser : Parser α) : Parser (Option α) := fun scope reading =>
  match parser scope reading with
  | .error _ => .ok (none, reading)
  | .ok (result, done) => .ok (some result, done)

/-- Repeats a step until it returns nothing, at most `bound` times. -/
def collect : (bound : Nat) → Parser (Option α) → Parser (List α)
  | 0, _ => return []
  | bound + 1, step => do
    match ← step with
    | some item => return item :: (← collect bound step)
    | none => return []

/-- Repeats a parser while a condition on the remaining tokens holds. -/
def whileSeen (bound : Nat) (condition : TokenStream → Bool) (parser : Parser α) :
    Parser (List α) :=
  collect bound do
    if condition (← remaining) then return some (← parser) else return none

/-- Repeats a parser up to the end of the scope. -/
def untilEnd (bound : Nat) (parser : Parser α) : Parser (List α) :=
  whileSeen bound (fun tokens => !tokens.isEmpty) parser

/-- Items with a separator behind each one, which the last one may lack, until `stops` holds.
The second component says whether a separator came last. -/
def separated (bound : Nat) (separator : String) (stops : TokenStream → Bool) (item : Parser α) :
    Parser (List α × Bool) := do
  match bound with
  | 0 => return ([], false)
  | bound + 1 =>
    if stops (← remaining) then return ([], true)
    let first ← item
    if stops (← remaining) then return ([first], false)
    let _ ← sign separator
    let (rest, trailing) ← separated bound separator stops item
    return (first :: rest, trailing)

/-- Items separated by commas, up to the end of the scope. -/
def commaTerminated (bound : Nat) (item : Parser α) : Parser (List α × Bool) :=
  separated bound "," List.isEmpty item

/-- Items joined by a separator for as long as one follows, until `stops` holds. -/
def joined (bound : Nat) (separator : String) (stops : TokenStream → Bool) (item : Parser α) :
    Parser (List α) := do
  match bound with
  | 0 => return []
  | bound + 1 =>
    if stops (← remaining) then return []
    let first ← item
    if ← accept (.sign separator) then return first :: (← joined bound separator stops item)
    else return [first]

/-- The first rule whose terminal comes next. -/
def choose (rules : List (Terminal × Parser α)) : Parser α := do
  let tokens ← remaining
  match rules.find? fun rule => tokens.startsWith rule.1 with
  | some rule => rule.2
  | none => expectedAmong (rules.map Prod.fst)

end Parser

end ValuedEnum
