import ValuedEnum.Grammar.ExprRule
import ValuedEnum.Grammar.TypeRule

/-!
# Reading statements and items

Enumerations and modules are kept; all other items are recognised and passed over.
-/

namespace ValuedEnum

namespace ItemRule

open ValuedEnum.Parser Generics

/-! ### Statements -/

/-- The bang of an invocation. -/
inductive Invocation where
  | none
  | item
  | braced

/-- What kind of invocation starts a statement. -/
def invocation : Parser Invocation := do
  let found ← ahead? do
    let _ ← Path.parser
    let tokens ← remaining
    if !tokens.startsWith (.sign "!") then return Invocation.none
    if tokens.secondIs .name || tokens.secondIs (.word "try") then return .item
    let trailed := tokens.thirdIs (.sign ".") && !tokens.thirdIs (.sign "..") ||
      tokens.thirdIs (.sign "?")
    if tokens.secondIs (.delimited .brace) && !trailed then return .braced
    return .none
  return found.getD .none

/-- Whether a statement is an item. -/
def startsItem (tokens : TokenStream) : Bool :=
  let first (text : String) : Bool := tokens.startsWith (.word text)
  let second (texts : List String) : Bool := texts.any fun text => tokens.secondIs (.word text)
  let third (texts : List String) : Bool := texts.any fun text => tokens.thirdIs (.word text)
  ["pub", "extern", "use", "fn", "mod", "type", "struct", "enum", "trait", "impl", "macro"].any
      first ||
    first "crate" && !tokens.secondIs (.sign "::") ||
    first "static" && (second ["mut"] || tokens.secondIs .name) ||
    first "const" && !(tokens.secondIs (.delimited .brace) || second ["static", "move"] ||
      second ["async"] && !third ["unsafe", "extern", "fn"] || tokens.secondIs (.sign "|")) ||
    first "unsafe" && !tokens.secondIs (.delimited .brace) ||
    first "async" && second ["unsafe", "extern", "fn"] ||
    first "union" && tokens.secondIs .name ||
    first "auto" && second ["trait"] ||
    first "default" && second ["unsafe", "impl"]

/-- A declaration of variables, perhaps with an `else` branch. -/
def letStatement (rules : Rules) : Parser Unit := do
  take (.word "let")
  rules.pattern
  if ← accept (.sign ":") then let _ ← rules.type
  if ← accept (.sign "=") then
    let value ← rules.expr
    let braced :=
      match value.tokens.getLast? with
      | some (.group .brace _ _) => true
      | _ => false
    if !braced then
      if ← accept (.word "else") then rules.block
  take (.sign ";")

/-- A statement; whether a semicolon has to follow it. -/
def statement (rules : Rules) : Parser Bool := do
  let attributes ← Attribute.outerAll rules
  match ← invocation with
  | .braced =>
    let _ ← Path.parser
    take (.sign "!")
    let _ ← verbatimGroup
    skip (.sign ";")
    return false
  | kind =>
    let tokens ← remaining
    let grouped := match tokens with
      | .group .invisible _ _ :: _ => true
      | _ => false
    if tokens.startsWith (.word "let") && !grouped then
      letStatement rules
      return false
    else if (match kind with | .item => true | _ => false) || startsItem tokens then
      let _ ← rules.item attributes
      return false
    else
      let expr ← rules.bounded
      if ← accept (.sign ";") then return false
      match expr with
      | .other (.invocation true) _ => return false
      | _ => return !expr.isBlock

/-- The statements of a block, each one behind the semicolon of the one in front of it. -/
def statements (rules : Rules) : (limit : Nat) → Parser Unit
  | 0 => return
  | limit + 1 => do
    let _ ← whileSeen rules.limit (·.startsWith (.sign ";")) (take (.sign ";"))
    if ← atEnd then return
    let open? ← statement rules
    if ← atEnd then return
    if open? then remark "unexpected token, expected `;`"
    statements rules limit

/-- A block with its statements. -/
def blockRule (rules : Rules) : Parser Unit := do
  let _ ← delimited .brace do
    Attribute.skipInner rules
    statements rules rules.limit

/-! ### Fields -/

/-- A field with a name. -/
def namedField (rules : Rules) : Parser Unit := do
  Attribute.skipOuter rules
  let _ ← Visibility.parser
  if ← sees .underscore then take .anyWord else take .name
  take (.sign ":")
  let _ ← rules.type

/-- A field without a name. -/
def unnamedField (rules : Rules) : Parser Unit := do
  Attribute.skipOuter rules
  let _ ← Visibility.parser
  let _ ← rules.type

/-- Fields between braces. -/
def namedFields (rules : Rules) : Parser Unit := do
  let _ ← delimited .brace (commaTerminated rules.limit (namedField rules))

/-- Fields between parentheses. -/
def unnamedFields (rules : Rules) : Parser Unit := do
  let _ ← delimited .parenthesis (commaTerminated rules.limit (unnamedField rules))

/-! ### Enumerations -/

/-- A variant; its own visibility is dropped. -/
def variant (rules : Rules) : Parser Variant := do
  let attributes ← Attribute.outerAll rules
  let _ ← silent Visibility.parser
  let ident ← name
  let (_, fields) ← captured do
    if ← sees (.delimited .brace) then namedFields rules
    else if ← sees (.delimited .parenthesis) then unnamedFields rules
  let discriminant ←
    if ← sees (.sign "=") then
      let equals ← sign "="
      pure (some ⟨equals, ← rules.expr⟩)
    else pure none
  return ⟨attributes, ident, fields.head?, discriminant⟩

/-- An enumeration behind its attributes. -/
def enumeration (rules : Rules) (attributes : List Attribute) : Parser EnumItem := do
  let visibility ← Visibility.parser
  take (.word "enum")
  let ident ← name
  let (_, generics) ← captured (parameters rules)
  let (_, constraints) ← captured (constraints rules)
  let ((variants, trailing), braces) ←
    delimited .brace (commaTerminated rules.limit (variant rules))
  return ⟨attributes, visibility, ident, generics, constraints, braces, variants, trailing⟩

/-! ### Functions -/

/-- The words in front of `fn`. -/
def functionFront (safe : Bool) : Parser Unit := do
  skip (.word "const")
  skip (.word "async")
  if safe && (← sees (.word "safe")) then take (.word "safe") else skip (.word "unsafe")
  TypeRule.abi

/-- Whether a function comes next. -/
def startsFunction (safe : Bool) : Parser Bool := do
  let found ← ahead? do
    functionFront safe
    sees (.word "fn")
  return found.getD false

/-- The receiver of a method. -/
def receiver (rules : Rules) : Parser Unit := do
  let reference ← accept (.sign "&")
  if reference then skip .lifetime
  skip (.word "mut")
  take (.word "self")
  if !reference then
    if ← accept (.sign ":") then let _ ← rules.type

/-- A parameter of a function. -/
def parameter (rules : Rules) : Parser Unit := do
  Attribute.skipOuter rules
  if ← accept (.sign "...") then return
  match ← attempt? (receiver rules) with
  | some _ => return
  | none =>
    if (← sees .name) && (← seesSecond (.sign "<")) then
      let _ ← rules.type
    else
      rules.pattern
      take (.sign ":")
      if ← accept (.sign "...") then return
      let _ ← rules.type

/-- A function from its modifiers to its constraints. -/
def signature (rules : Rules) (safe : Bool) : Parser Unit := do
  functionFront safe
  take (.word "fn")
  take .name
  parameters rules
  let _ ← delimited .parenthesis (commaTerminated rules.limit (parameter rules))
  if ← accept (.sign "->") then let _ ← rules.type
  constraints rules

/-- A function whose body may be missing. -/
def function (rules : Rules) : Parser Unit := do
  let _ ← Visibility.parser
  skip (.word "default")
  signature rules false
  if !(← accept (.sign ";")) then rules.block

/-! ### Values and type aliases -/

/-- A constant without its visibility; the type behind its name may not be missing. -/
def constantItem (rules : Rules) : Parser Unit := do
  take (.word "const")
  choose [(.name, take .anyWord), (.underscore, take .anyWord)]
  parameters rules
  take (.sign ":")
  let _ ← rules.type
  if ← accept (.sign "=") then let _ ← rules.expr
  constraints rules
  take (.sign ";")

/-- A static variable. -/
def staticItem (rules : Rules) : Parser Unit := do
  let _ ← Visibility.parser
  take (.word "static")
  skip (.word "mut")
  take .name
  if !(← sees (.sign "=")) then
    take (.sign ":")
    let _ ← rules.type
    if ← accept (.sign ";") then return
  take (.sign "=")
  let _ ← rules.expr
  take (.sign ";")

/-- A type alias, perhaps with bounds and without a type. -/
def typeItem (rules : Rules) : Parser Unit := do
  let _ ← Visibility.parser
  skip (.word "default")
  take (.word "type")
  take .name
  parameters rules
  if ← accept (.sign ":") then
    let _ ← joined rules.limit "+" (stopsAt [.word "where", .sign "=", .sign ";"]) rules.bound
  constraints rules
  if ← accept (.sign "=") then let _ ← rules.type
  constraints rules
  take (.sign ";")

/-! ### Structs and unions -/

/-- A struct with its fields, or without any. -/
def structItem (rules : Rules) : Parser Unit := do
  let _ ← Visibility.parser
  take (.word "struct")
  take .name
  parameters rules
  let constrained ← sees (.word "where")
  constraints rules
  if !constrained && (← sees (.delimited .parenthesis)) then
    unnamedFields rules
    let constrained ← sees (.word "where")
    constraints rules
    if ← accept (.sign ";") then return
    expectedAmong (if constrained then [.sign ";"] else [.word "where", .sign ";"])
  else if ← sees (.delimited .brace) then namedFields rules
  else if ← accept (.sign ";") then return
  else
    expectedAmong (if constrained then [.delimited .brace, .sign ";"]
      else [.word "where", .delimited .parenthesis, .delimited .brace, .sign ";"])

/-- A union with its fields. -/
def unionItem (rules : Rules) : Parser Unit := do
  let _ ← Visibility.parser
  take (.word "union")
  take .name
  parameters rules
  constraints rules
  namedFields rules

/-! ### Invocations as items -/

/-- The invocation of a macro as an item. -/
def invocationItem : Parser Unit := do
  let _ ← Path.parser
  take (.sign "!")
  if ← sees (.word "try") then take .anyWord else skip .name
  let (delimiter, _, _) ← verbatimGroup
  if delimiter != .brace then take (.sign ";")

/-- An invocation among the members of a trait or an implementation. -/
def invocationMember : Parser Unit := do
  let _ ← Path.parser
  take (.sign "!")
  let (delimiter, _, _) ← verbatimGroup
  if delimiter != .brace then take (.sign ";")

/-- What the path of a macro starts with. -/
def invocationStarts : List Terminal :=
  [.name, .word "self", .word "super", .word "crate", .sign "::"]

/-! ### Traits, implementations and foreign items -/

/-- A member of a trait or an implementation; an implementation's may be a default. -/
def member (rules : Rules) : Parser Unit := do
  Attribute.skipOuter rules
  let parsed ← ahead? do
    let visibility ← Visibility.parser
    let tokens ← remaining
    let preset := tokens.startsWith (.word "default") && !tokens.secondIs (.sign "!")
    if preset then take (.word "default")
    return (visibility, preset, ← startsFunction false, ← remaining)
  match parsed with
  | none => let _ ← Visibility.parser
  | some (visibility, preset, isFunction, tokens) =>
    if isFunction then function rules
    else if tokens.startsWith (.word "const") then
      let _ ← Visibility.parser
      if preset then take (.word "default")
      constantItem rules
    else if tokens.startsWith (.word "type") then typeItem rules
    else if visibility = .inherited && !preset && stopsAt invocationStarts tokens then
      invocationMember
    else
      let _ ← Visibility.parser
      if preset then take (.word "default")
      let macros := if visibility = .inherited && !preset then invocationStarts else []
      expectedAmong ([.word "fn", .word "const", .word "type"] ++ macros)

/-- The members of a trait or an implementation. -/
def members (rules : Rules) : Parser Unit := do
  let _ ← delimited .brace do
    Attribute.skipInner rules
    let _ ← untilEnd rules.limit (member rules)

/-- A trait, or another name for some traits. -/
def traitItem (rules : Rules) : Parser Unit := do
  let _ ← Visibility.parser
  skip (.word "unsafe")
  skip (.word "auto")
  take (.word "trait")
  take .name
  parameters rules
  let tokens ← remaining
  if tokens.startsWith (.sign "=") then
    take (.sign "=")
    let _ ← joined rules.limit "+" (stopsAt [.word "where", .sign ";"]) rules.bound
    constraints rules
    take (.sign ";")
  else if stopsAt [.delimited .brace, .sign ":", .word "where"] tokens then
    if ← accept (.sign ":") then
      let _ ← joined rules.limit "+" (stopsAt [.word "where", .delimited .brace]) rules.bound
    constraints rules
    members rules
  else expectedAmong [.delimited .brace, .sign ":", .word "where", .sign "="]

/-- Whether parameters, and not a path that starts with a type, come next. -/
def startsParameters (tokens : TokenStream) : Bool :=
  tokens.startsWith (.sign "<") &&
    (tokens.secondIs (.sign ">") || tokens.secondIs (.sign "#") ||
      (tokens.secondIs .lifetime || tokens.secondIs .name) &&
        [Terminal.sign ":", .sign ",", .sign ">", .sign "="].any tokens.thirdIs ||
      tokens.secondIs (.word "const"))

/-- An implementation. -/
def implItem (rules : Rules) : Parser Unit := do
  let _ ← Visibility.parser
  skip (.word "default")
  skip (.word "unsafe")
  take (.word "impl")
  if startsParameters (← remaining) then parameters rules
  if (← sees (.sign "?")) && (← seesSecond (.word "const")) then take (.sign "?")
  skip (.word "const")
  if (← sees (.sign "!")) && !(← seesSecond (.delimited .brace)) then take (.sign "!")
  let _ ← rules.type
  if ← accept (.word "for") then let _ ← rules.type
  constraints rules
  members rules

/-- An item of a foreign module. -/
def foreignItem (rules : Rules) : Parser Unit := do
  Attribute.skipOuter rules
  let visibility ← Visibility.parser
  let isFunction ← startsFunction true
  let tokens ← remaining
  let marked := tokens.startsWith (.word "unsafe") || tokens.startsWith (.word "safe")
  if isFunction then
    signature rules true
    if ← sees (.delimited .brace) then rules.block else take (.sign ";")
  else if tokens.startsWith (.word "static") || marked && tokens.secondIs (.word "static") then
    if marked then take .anyWord
    take (.word "static")
    skip (.word "mut")
    take .name
    take (.sign ":")
    let _ ← rules.type
    if ← accept (.sign "=") then let _ ← rules.expr
    take (.sign ";")
  else if tokens.startsWith (.word "type") then typeItem rules
  else if visibility = .inherited && stopsAt invocationStarts tokens then invocationMember
  else
    expectedAmong ([.word "fn", .word "static", .word "type"] ++
      if visibility = .inherited then invocationStarts else [])

/-- A foreign module with its items. -/
def foreignModule (rules : Rules) : Parser Unit := do
  skip (.word "unsafe")
  TypeRule.abi
  let _ ← delimited .brace do
    Attribute.skipInner rules
    let _ ← untilEnd rules.limit (foreignItem rules)

/-- An item behind `extern`: a foreign module, a function, or the import of a crate. -/
def externItem (rules : Rules) : Parser Unit := do
  match ← ahead? (do let _ ← Visibility.parser; take (.word "extern"); remaining) with
  | none => let _ ← Visibility.parser
  | some tokens =>
    if tokens.startsWith (.word "crate") then
      let _ ← Visibility.parser
      take (.word "extern")
      take (.word "crate")
      if ← sees (.word "self") then take .anyWord else take .name
      if ← accept (.word "as") then
        if ← sees .underscore then take .anyWord else take .name
      take (.sign ";")
    else if tokens.startsWith (.delimited .brace) then foreignModule rules
    else
      let _ ← Visibility.parser
      take (.word "extern")
      if tokens.startsWith .string then
        take .string
        if !(← sees (.delimited .brace)) then expectedAmong [.delimited .brace]
        foreignModule rules
      else expectedAmong [.word "crate", .delimited .brace, .string]

/-! ### Imports -/

/-- The tree of an import. -/
def useTreeRule (rules : Rules) (root : Bool) : Parser Unit := do
  let words : List Terminal :=
    [.name, .word "self", .word "super", .word "crate", .word "try"]
  let tokens ← remaining
  if stopsAt words tokens then
    take .anyWord
    if ← accept (.sign "::") then rules.useTree false
    else if ← accept (.word "as") then
      if ← seesAny [.name, .underscore] then take .anyWord
      else remark "expected identifier or underscore"
  else if tokens.startsWith (.sign "*") then take (.sign "*")
  else if tokens.startsWith (.delimited .brace) then
    let _ ← delimited .brace <| commaTerminated rules.limit do
      let rooted ← if root then accept (.sign "::") else pure false
      rules.useTree (root && !rooted)
  else expectedAmong (words ++ [.sign "*", .delimited .brace])

/-- An import. -/
def useItem (rules : Rules) : Parser Unit := do
  let _ ← Visibility.parser
  take (.word "use")
  let rooted ← accept (.sign "::")
  rules.useTree (!rooted)
  take (.sign ";")

/-! ### Items -/

/-- A module; one without a body holds nothing. -/
def moduleItem (rules : Rules) : Parser Item := do
  let _ ← Visibility.parser
  skip (.word "unsafe")
  take (.word "mod")
  let ident ← if ← sees (.word "try") then anyWord else name
  if ← accept (.sign ";") then return .module ident []
  if ← sees (.delimited .brace) then
    let (items, _) ← delimited .brace do
      Attribute.skipInner rules
      untilEnd rules.limit do
        rules.item (← Attribute.outerAll rules)
    return .module ident items
  expectedAmong [.sign ";", .delimited .brace]

/-- Another way to declare an invocation. -/
def declarationItem : Parser Unit := do
  let _ ← Visibility.parser
  take .anyWord
  take .name
  if ← sees (.delimited .parenthesis) then
    let _ ← verbatimGroup
    if ← sees (.delimited .brace) then let _ ← verbatimGroup
    else expectedAmong [.delimited .brace]
  else if ← sees (.delimited .brace) then let _ ← verbatimGroup
  else expectedAmong [.delimited .parenthesis, .delimited .brace]

/-- An item behind `unsafe`. -/
def unsafeItem (rules : Rules) : Parser Item := do
  match ← ahead? (do let _ ← Visibility.parser; take .anyWord; remaining) with
  | none => let _ ← Visibility.parser; return .other
  | some tokens =>
    if tokens.startsWith (.word "trait") ||
        tokens.startsWith (.word "auto") && tokens.secondIs (.word "trait") then
      traitItem rules
      return .other
    else if tokens.startsWith (.word "impl") then implItem rules; return .other
    else if tokens.startsWith (.word "extern") then foreignModule rules; return .other
    else if tokens.startsWith (.word "mod") then moduleItem rules
    else
      let _ ← Visibility.parser
      take .anyWord
      expectedAmong ([.word "trait"] ++
        (if tokens.startsWith (.word "auto") then [] else [.word "auto"]) ++
        [.word "impl", .word "extern", .word "mod"])

/-- What an item starts with, in the order in which it is named when none comes. -/
def itemStarts : List Terminal :=
  ["fn", "extern", "use", "static", "const", "unsafe", "mod", "type", "struct", "enum", "union",
    "trait", "auto", "impl", "default", "macro"].map Terminal.word

/-- An item that is passed over. -/
def passed (parser : Parser Unit) : Parser Item := do
  parser
  return .other

/-- An item behind its attributes; only enumerations and modules are kept. -/
def rule (rules : Rules) (attributes : List Attribute) : Parser Item := do
  let found ← ahead? do
    let visibility ← Visibility.parser
    return (visibility, ← startsFunction false, ← remaining)
  match found with
  | none =>
    let _ ← Visibility.parser
    return .other
  | some (visibility, isFunction, tokens) =>
    let first (text : String) : Bool := tokens.startsWith (.word text)
    if isFunction then passed (function rules)
    else if first "extern" then passed (externItem rules)
    else if first "use" then passed (useItem rules)
    else if first "static" then passed (staticItem rules)
    else if first "const" then
      passed do
        let _ ← Visibility.parser
        constantItem rules
    else if first "unsafe" then unsafeItem rules
    else if first "mod" then moduleItem rules
    else if first "type" then passed (typeItem rules)
    else if first "struct" then passed (structItem rules)
    else if first "enum" then return .enumeration (← enumeration rules attributes)
    else if first "union" && tokens.secondIs .name then passed (unionItem rules)
    else if first "trait" then passed (traitItem rules)
    else if first "auto" && tokens.secondIs (.word "trait") then passed (traitItem rules)
    else if first "impl" || first "default" && !tokens.secondIs (.sign "!") then
      passed (implItem rules)
    else if first "macro" then passed declarationItem
    else if visibility = .inherited && stopsAt invocationStarts tokens then
      passed invocationItem
    else
      let _ ← Visibility.parser
      expectedAmong (itemStarts ++
        if visibility = .inherited then invocationStarts else [])

/-- The items of a file behind its own attributes. -/
def file (rules : Rules) : Parser SourceFile := do
  Attribute.skipInner rules
  untilEnd rules.limit do
    rules.item (← Attribute.outerAll rules)

end ItemRule

end ValuedEnum
