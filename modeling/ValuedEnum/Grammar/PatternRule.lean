import ValuedEnum.Grammar.Generics

/-!
# Reading patterns
-/

namespace ValuedEnum

namespace PatternRule

open ValuedEnum.Parser Generics

/-- The bar between two patterns, and no other operator. -/
def startsBar (tokens : TokenStream) : Bool :=
  tokens.startsWith (.sign "|") && !tokens.startsWith (.sign "||") &&
    !tokens.startsWith (.sign "|=")

/-- Patterns with bars between them, and perhaps one in front. -/
def alternatives (rules : Rules) : Parser Unit := do
  if startsBar (← remaining) then take (.sign "|")
  rules.pattern
  let _ ← whileSeen rules.limit startsBar do
    take (.sign "|")
    rules.pattern

/-- Whether a path, and not a name, comes next. -/
def startsPath (tokens : TokenStream) : Bool :=
  let behind : List Terminal :=
    [.sign "::", .sign "!", .delimited .brace, .delimited .parenthesis, .sign ".."]
  tokens.startsWith .name && behind.any tokens.secondIs ||
    tokens.startsWith (.word "self") && tokens.secondIs (.sign "::") ||
    stopsAt [.sign "::", .sign "<", .word "Self", .word "super", .word "crate"] tokens

/-- One end of a range; `false` if there is none. -/
def rangeEnd (rules : Rules) : Parser Bool := do
  let tokens ← remaining
  if tokens.isEmpty || startsColon tokens ||
      stopsAt [.sign "|", .sign "=", .sign ",", .sign ";", .word "if"] tokens then
    return false
  if tokens.startsWith .literal then
    let _ ← literal
  else if stopsAt [.name, .sign "::", .sign "<", .word "self", .word "Self", .word "super",
      .word "crate"] tokens then
    let _ ← path rules true
  else if tokens.startsWith (.word "const") then
    take (.word "const")
    rules.block
  else
    expectedAmong [.literal, .name, .sign "::", .sign "<", .word "self", .word "Self",
      .word "super", .word "crate", .word "const"]
  return true

/-- The sign of a range; whether the range holds its end. -/
def rangeSign : Parser Bool := do
  if ← sees (.sign "..=") then take (.sign "..="); return true
  else if ← sees (.sign "...") then take (.sign "..."); return true
  else take (.sign ".."); return false

/-- What follows the start of a range. -/
def rangeRest (rules : Rules) : Parser Unit := do
  let closed ← rangeSign
  if !(← rangeEnd rules) && closed then remark "expected range upper bound"

/-- Patterns separated by commas. -/
def list (rules : Rules) : Parser Unit := do
  let _ ← commaTerminated rules.limit (alternatives rules)

/-- A field of a struct pattern, or the sign for all others. -/
def field (rules : Rules) : Parser Unit := do
  Attribute.skipOuter rules
  if ← sees (.sign "..") then take (.sign "..")
  else
    let boxed ← accept (.word "box")
    let bound ← accept (.word "ref")
    let changing ← accept (.word "mut")
    if boxed || bound || changing then take .name
    else
      let isName ← sees .name
      if isName then take .name
      else if ← sees .integer then take .integer
      else remark "expected identifier or integer"
      if !isName || (← sees (.sign ":")) then
        take (.sign ":")
        alternatives rules

/-- A path as a pattern, perhaps with arguments, fields or the end of a range. -/
def pathPattern (rules : Rules) : Parser Unit := do
  let form ← path rules true
  let tokens ← remaining
  if tokens.startsWith (.sign "!") && !tokens.startsWith (.sign "!=") && !form.qualified &&
      !form.arguments then
    take (.sign "!")
    let _ ← verbatimGroup
  else if tokens.startsWith (.delimited .brace) then
    let _ ← delimited .brace (commaTerminated rules.limit (field rules))
  else if tokens.startsWith (.delimited .parenthesis) then
    let _ ← delimited .parenthesis (list rules)
  else if tokens.startsWith (.sign "..") then rangeRest rules

/-- A variable, perhaps with a pattern of its own. -/
def binding (rules : Rules) : Parser Unit := do
  skip (.word "ref")
  skip (.word "mut")
  if ← sees (.word "self") then take .anyWord else take .name
  if ← accept (.sign "@") then rules.pattern

/-- The tokens that start a pattern, in the order in which they are named when none comes. -/
def starts : List Terminal :=
  [.name, .sign "::", .sign "<", .underscore, .literal, .word "const", .word "ref", .word "mut",
    .sign "&", .delimited .parenthesis, .delimited .bracket, .sign ".."]

/-- A pattern without alternatives. -/
def rule (rules : Rules) : Parser Unit := do
  let tokens ← remaining
  if startsPath tokens then pathPattern rules
  else if tokens.startsWith .underscore then take .anyWord
  else if tokens.startsWith (.word "box") then
    take (.word "box")
    rules.pattern
  else if stopsAt [.sign "-", .literal, .word "const"] tokens then
    let _ ← rangeEnd rules
    if ← sees (.sign "..") then rangeRest rules
  else if stopsAt [.word "ref", .word "mut", .word "self", .name] tokens then binding rules
  else if tokens.startsWith (.sign "&") then
    take (.sign "&")
    skip (.word "mut")
    rules.pattern
  else if tokens.startsWith (.delimited .parenthesis) then
    let _ ← delimited .parenthesis (list rules)
  else if tokens.startsWith (.delimited .bracket) then
    let _ ← delimited .bracket (list rules)
  else if tokens.startsWith (.sign "..") && !tokens.startsWith (.sign "...") then
    let closed ← rangeSign
    if !(← rangeEnd rules) && closed then remark "expected range upper bound"
  else expectedAmong starts

end PatternRule

end ValuedEnum
