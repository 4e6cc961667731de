import ValuedEnum.Grammar.Rules

/-!
# Reading paths, visibilities and attributes
-/

namespace ValuedEnum

namespace Path

/-- The words that may stand in a path although they are reserved. -/
def segmentStarts : List Terminal :=
  [.name, .word "super", .word "self", .word "Self", .word "crate"]

/-- The segments of a path, each one behind `::` but the first. -/
def segmentsParser : (bound : Nat) → Parser (List Ident)
  | 0 => return []
  | bound + 1 => do
    if !(← Parser.seesAny segmentStarts) then return []
    let ident ← Parser.anyWord
    if ← Parser.sees (.sign "::") then
      Parser.take (.sign "::")
      match ← segmentsParser bound with
      | [] => Parser.expected .pathSegment
      | rest => return ident :: rest
    else return [ident]

/-- A path without arguments. -/
def parser : Parser Path := do
  let leading ←
    if ← Parser.sees (.sign "::") then pure (some (← Parser.sign "::")) else pure none
  match ← segmentsParser (TokenTree.sizeAll (← Parser.remaining) + 1) with
  | first :: rest => return ⟨leading, first, rest⟩
  | [] => let ident ← Parser.name; return ⟨leading, ident, []⟩

end Path

namespace Visibility

/-- The restriction behind `pub`; parentheses that hold anything else belong to what follows. -/
def restriction? : Parser (Option Visibility) := do
  if !(← Parser.sees (.delimited .parenthesis)) then return none
  let tried ← Parser.ahead? <| Parser.delimited .parenthesis do
    if ← Parser.seesAny [.word "crate", .word "self", .word "super"] then
      let _ ← Parser.anyWord
      return ← Parser.atEnd
    else Parser.sees (.word "in")
  match tried with
  | some (true, _) =>
    let (visibility, _) ← Parser.delimited .parenthesis do
      let marked ← Parser.accept (.word "in")
      let path ← if marked then Path.parser else pure ⟨none, ← Parser.anyWord, []⟩
      return inside marked path
    return some visibility
  | _ => return none

/-- A visibility, which is inherited where none is written. -/
def parser : Parser Visibility := do
  match ← Parser.remaining with
  | .group .invisible [] _ :: rest =>
    Parser.advance rest []
    return inherited
  | _ =>
    if ← Parser.accept (.word "pub") then
      return (← restriction?).getD anywhere
    else return inherited

end Visibility

namespace Attribute

/-- The path of an attribute, which may be the word `unsafe`. -/
def pathParser : Parser Path := do
  if ← Parser.sees (.word "unsafe") then return ⟨none, ← Parser.anyWord, []⟩
  else Path.parser

/-- The value of an attribute: a literal if that is all there is, else an expression. -/
def valueParser (rules : Rules) : Parser TokenStream := do
  let whole ← Parser.ahead? do
    let _ ← Parser.literal
    Parser.atEnd
  let (_, tokens) ← Parser.captured do
    if whole = some true then let _ ← Parser.literal
    else if (← Parser.sees (.sign "#")) && (← Parser.seesSecond (.delimited .bracket)) then
      Parser.remark "unexpected attribute inside of attribute"
    else let _ ← rules.expr
  return tokens

/-- What follows the path of an attribute: a group, a value, or nothing. -/
def bodyParser (rules : Rules) : Parser AttributeBody := do
  if ← Parser.seesAny [.delimited .parenthesis, .delimited .bracket, .delimited .brace] then
    let (delimiter, content, span) ← Parser.verbatimGroup
    return .list delimiter content span
  else if ← Parser.sees (.sign "=") then
    let equals ← Parser.sign "="
    return .assigned equals (← valueParser rules)
  else return .bare

/-- A path with what may follow it, as between the brackets of an attribute. -/
def contentParser (rules : Rules) : Parser (Path × AttributeBody) := do
  let path ← pathParser
  return (path, ← bodyParser rules)

/-- An attribute in front of what it belongs to. -/
def outerParser (rules : Rules) : Parser Attribute := do
  let pound ← Parser.sign "#"
  let ((path, body), brackets) ← Parser.delimited .bracket (contentParser rules)
  return ⟨pound, brackets, path, body⟩

/-- The attributes in front of what they belong to. -/
def outerAll (rules : Rules) : Parser (List Attribute) :=
  Parser.whileSeen rules.limit (·.startsWith (.sign "#")) (outerParser rules)

/-- Passes over the attributes in front of something. -/
def skipOuter (rules : Rules) : Parser Unit := do let _ ← outerAll rules

/-- The attributes inside of what they belong to. -/
def skipInner (rules : Rules) : Parser Unit := do
  let starts (tokens : TokenStream) : Bool :=
    tokens.startsWith (.sign "#") && tokens.secondIs (.sign "!")
  let _ ← Parser.whileSeen rules.limit starts do
    Parser.take (.sign "#")
    Parser.take (.sign "!")
    let _ ← Parser.delimited .bracket (contentParser rules)

end Attribute

end ValuedEnum
