import ValuedEnum.Grammar.Generics

/-!
# Reading types
-/

namespace ValuedEnum

namespace TypeRule

open ValuedEnum.Parser Generics

/-- The tokens that start a type, in the order in which they are named when none comes. -/
def starts : List Terminal :=
  [.word "for", .delimited .parenthesis, .word "fn", .word "unsafe", .word "extern", .name,
    .sign "::", .sign "<", .word "dyn", .delimited .bracket, .sign "*", .sign "&", .sign "!",
    .word "impl", .underscore, .lifetime]

/-- The words of a path, and the tokens in front of one. -/
def pathStarts : List Terminal :=
  [.name, .word "super", .word "self", .word "Self", .word "crate", .sign "::", .sign "<"]

/-- What the type of a function starts with. -/
def functionStarts : List Terminal := [.word "fn", .word "unsafe", .word "extern"]

/-- A language, as `extern "C"`. -/
def abi : Parser Unit := do
  if ← accept (.word "extern") then skip .string

/-- What may follow a plus sign. -/
def boundStarts : List Terminal :=
  [.anyWord, .sign "::", .sign "?", .lifetime, .delimited .parenthesis]

/-- The fault of bounds of an object without a trait. -/
def objectFault : String := "at least one trait is required for an object type"

/-- Bounds behind the first one. -/
def moreBounds (rules : Rules) : Parser Unit := do
  if ← accept (.sign "+") then
    let _ ← joined rules.limit "+" (!stopsAt boundStarts ·) rules.bound

/-- An argument of a function type, perhaps with a name. -/
def functionArgument (rules : Rules) : Parser Unit := do
  Attribute.skipOuter rules
  let tokens ← remaining
  let named (tokens : TokenStream) : Bool := tokens.secondIs (.sign ":") &&
    !tokens.secondIs (.sign "::")
  if tokens.startsWith (.sign "...") then take (.sign "...")
  else
    if tokens.startsWith (.word "mut") && tokens.secondIs (.word "self") then take (.word "mut")
    let tokens ← remaining
    if stopsAt [.name, .underscore, .word "self"] tokens && named tokens then
      take .anyWord
      take (.sign ":")
      if ← sees (.sign "...") then take (.sign "...") else let _ ← rules.type
    else if tokens.startsWith (.word "self") then
      take (.word "self")
    else let _ ← rules.type

/-- The type of a function. -/
def functionType (rules : Rules) : Parser Unit := do
  skip (.word "unsafe")
  abi
  take (.word "fn")
  let _ ← delimited .parenthesis (commaTerminated rules.limit (functionArgument rules))
  if ← accept (.sign "->") then let _ ← rules.type false

/-- A path, an invocation, or a sum of bounds that starts with a path. -/
def pathType (rules : Rules) (plus quantified : Bool) : Parser TypeForm := do
  let form ← path rules false
  let called ← callPath rules form
  if called.qualified then return .other
  let tokens ← remaining
  if tokens.startsWith (.sign "!") && !tokens.startsWith (.sign "!=") && !called.arguments then
    take (.sign "!")
    let _ ← verbatimGroup
    return .other
  if quantified || plus && tokens.startsWith (.sign "+") then
    if plus && tokens.startsWith (.sign "+") then
      moreBounds rules
      return .other
    return .bound
  if called.length = 1 && !called.leading then return .segment
  return .path

/-- Types between parentheses: none, one, or a tuple. -/
def parenthesized (rules : Rules) : Parser (Option TypeForm) := do
  if ← atEnd then return none
  if ← sees .lifetime then
    boundSum rules true (← location) objectFault
    return some .other
  if ← sees (.sign "?") then
    traitBound rules
    return some .bound
  let first ← rules.type
  if ← sees (.sign ",") then
    take (.sign ",")
    let _ ← commaTerminated rules.limit rules.type
    return none
  return some first

/-- A type in parentheses, a tuple, or a sum that starts with a bound in parentheses. -/
def parenthesizedType (rules : Rules) (plus : Bool) : Parser TypeForm := do
  let optional := do
    match (← remaining).group? .parenthesis with
    | some (inner, _, _) => return inner.startsWith (.sign "?")
    | none => return false
  let summed ← optional
  let (inner, _) ← delimited .parenthesis (parenthesized rules)
  match inner with
  | none => return .other
  | some inner =>
    if summed || plus && (inner = .segment || inner = .path || inner = .bound) then
      if ← sees (.sign "+") then moreBounds rules
    return .other

/-- The type of a slice or of an array. -/
def bracketed (rules : Rules) : Parser Unit := do
  let _ ← delimited .bracket do
    let _ ← rules.type
    if ← accept (.sign ";") then let _ ← rules.expr

/-- The type of a pointer. -/
def pointer (rules : Rules) : Parser Unit := do
  take (.sign "*")
  choose [(.word "const", take (.word "const")), (.word "mut", take (.word "mut"))]
  let _ ← rules.type false

/-- The type of a reference. -/
def reference (rules : Rules) : Parser Unit := do
  take (.sign "&")
  skip .lifetime
  skip (.word "mut")
  let _ ← rules.type false

/-- A type in an invisible group, which may be the beginning of a path. -/
def grouped (rules : Rules) (arguments : Bool) : Parser TypeForm := do
  let (inner, _) ← delimited .invisible (rules.type)
  let tokens ← remaining
  let colons := tokens.startsWith (.sign "::")
  if colons && tokens.thirdIs .anyWord then
    let _ ← moreSegments rules false pathGoesOn rules.limit ⟨false, 1, false, false, false⟩
    return .path
  if (arguments && tokens.startsWith (.sign "<") || colons && tokens.thirdIs (.sign "<")) &&
      inner.isPath then
    angleArguments rules
    let _ ← moreSegments rules false pathGoesOn rules.limit ⟨false, 1, true, true, false⟩
    return .path
  return .group inner

/-- The type behind a quantifier starts with the path of a trait or with a function. -/
def quantified (rules : Rules) : Parser Bool := do
  if ← quantifier rules then
    let after : List Terminal :=
      [.name, .word "fn", .word "unsafe", .word "extern", .word "super", .word "self",
        .word "Self", .word "crate"]
    if !(← seesAny after) || (← sees (.word "dyn")) then expectedAmong after
    return true
  return false

/-- A type behind what quantifies over lifetimes. -/
def rule (rules : Rules) (plus arguments : Bool) : Parser TypeForm := do
  match ← remaining with
  | .group .invisible _ _ :: _ => grouped rules arguments
  | _ =>
    let isQuantified ← quantified rules
    let tokens ← remaining
    if tokens.startsWith (.delimited .parenthesis) then parenthesizedType rules plus
    else if stopsAt functionStarts tokens then functionType rules; return .other
    else if stopsAt pathStarts tokens then pathType rules plus isQuantified
    else if tokens.startsWith (.word "dyn") then
      let start ← word "dyn"
      skip (.sign "*")
      boundSum rules plus start objectFault
      return .other
    else if tokens.startsWith (.delimited .bracket) then bracketed rules; return .other
    else if tokens.startsWith (.sign "*") then pointer rules; return .other
    else if tokens.startsWith (.sign "&") then reference rules; return .other
    else if tokens.startsWith (.sign "!") && !tokens.startsWith (.sign "=") then
      take (.sign "!")
      return .other
    else if tokens.startsWith (.word "impl") then
      let start ← word "impl"
      boundSum rules plus start "at least one trait must be specified"
      return .other
    else if tokens.startsWith .underscore then take .anyWord; return .other
    else if tokens.startsWith .lifetime then
      boundSum rules true (← location) objectFault
      return .other
    else expectedAmong starts

end TypeRule

end ValuedEnum
