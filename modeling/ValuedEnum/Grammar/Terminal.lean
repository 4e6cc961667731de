import ValuedEnum.Literal.Basic

/-!
# Looking at the next token

Readers look through invisible groups for words, literals and signs. `TokenTree.exposedAll` opens
the groups in front of the next visible token; the functions after it take that token.
-/

namespace ValuedEnum

namespace TokenTree

mutual

/-- A list of trees whose first one is visible; `none` if the tree holds nothing visible. -/
def exposed : TokenTree → List TokenTree → Option (List TokenTree)
  | group .invisible inner _, rest =>
    match exposedAll inner with
    | some front => some (front ++ rest)
    | none => none
  | tree, rest => some (tree :: rest)

/-- The trees from the first visible one on, with the groups in front of it opened. -/
def exposedAll : List TokenTree → Option (List TokenTree)
  | [] => none
  | tree :: rest =>
    match exposed tree rest with
    | some trees => some trees
    | none => exposedAll rest

end

end TokenTree

/-- The words that are no names. -/
def reserved : List String :=
  ["_", "abstract", "as", "async", "await", "become", "box", "break", "const", "continue", "crate",
    "do", "dyn", "else", "enum", "extern", "false", "final", "fn", "for", "if", "impl", "in", "let",
    "loop", "macro", "match", "mod", "move", "mut", "override", "priv", "pub", "ref", "return",
    "Self", "self", "static", "struct", "super", "trait", "true", "try", "type", "typeof", "unsafe",
    "unsized", "use", "virtual", "where", "while", "yield"]

/-- Whether a word may be the name of something. -/
def Ident.isName (ident : Ident) : Bool := !reserved.contains ident.text

/-- A kind of token that a reader can ask for. -/
inductive Terminal where
  | word (text : String)
  | sign (text : String)
  | underscore
  | name
  | anyWord
  | lifetime
  | literal
  | string
  | integer
  | float
  | delimited (delimiter : Delimiter)
deriving DecidableEq, Repr, Inhabited

namespace Terminal

/-- What is said to be expected where a token of a kind is missing. -/
def expectation : Terminal → Expectation
  | word text => .symbol text
  | sign text => .symbol text
  | underscore => .symbol "_"
  | name => .identifier
  | anyWord => .identifier
  | lifetime => .lifetime
  | literal => .literal
  | string => .stringLiteral
  | integer => .integerLiteral
  | float => .phrase "floating point literal"
  | delimited kind => .delimited kind

end Terminal

namespace TokenStream

/-- The first visible token and what follows it. -/
def next? (tokens : TokenStream) : Option (TokenTree × TokenStream) :=
  match TokenTree.exposedAll tokens with
  | some (tree :: rest) => some (tree, rest)
  | _ => none

/-- The next token, if it is a word. -/
def word? (tokens : TokenStream) : Option (Ident × TokenStream) :=
  match tokens.next? with
  | some (.ident ident, rest) => some (ident, rest)
  | _ => none

/-- A sign other than the quote of a lifetime. -/
def punct? (tokens : TokenStream) : Option (Char × Spacing × Span × TokenStream) :=
  match tokens.next? with
  | some (.punct char spacing span, rest) =>
    if char = '\x27' then none else some (char, spacing, span, rest)
  | _ => none

/-- The signs of an operator; all but the last one must be joint. -/
def sign? : List Char → TokenStream → Option (List Span × TokenStream)
  | [], tokens => some ([], tokens)
  | c :: more, tokens =>
    match tokens.punct? with
    | some (char, spacing, span, rest) =>
      if char = c && (more.isEmpty || spacing = .joint) then
        (sign? more rest).map fun read => (span :: read.1, read.2)
      else none
    | none => none

/-- The next lifetime, with the position of its quote. -/
def lifetime? (tokens : TokenStream) : Option (Span × Ident × TokenStream) :=
  match tokens.next? with
  | some (.punct '\x27' .joint span, rest) =>
    match rest.word? with
    | some (ident, rest) => some (span, ident, rest)
    | none => none
  | _ => none

/-- A literal token or a truth value. -/
def lit? (tokens : TokenStream) : Option (Lit × TokenStream) :=
  match tokens.next? with
  | some (.literal text span, rest) => some (⟨text, span⟩, rest)
  | some (.ident ident, rest) =>
    if ident.text = "true" || ident.text = "false" then some (⟨ident.text, ident.span⟩, rest)
    else none
  | _ => none

/-- A number behind a minus sign. -/
def negative? (tokens : TokenStream) : Option (Span × Lit × TokenStream) :=
  match tokens.punct? with
  | some ('-', _, span, rest) =>
    match rest.next? with
    | some (.literal text litSpan, rest) =>
      if Lit.isNumber ⟨text, litSpan⟩ then some (span, ⟨text, litSpan⟩, rest) else none
    | _ => none
  | _ => none

/-- A group; an invisible one only if nothing stands around it that would be looked through. -/
def group? (delimiter : Delimiter) (tokens : TokenStream) :
    Option (TokenStream × Span × TokenStream) :=
  if delimiter = .invisible then
    match tokens with
    | .group .invisible inner span :: rest => some (inner, span, rest)
    | _ => none
  else
    match tokens.next? with
    | some (.group found inner span, rest) =>
      if found = delimiter then some (inner, span, rest) else none
    | _ => none

end TokenStream

namespace Terminal

/-- Whether a token of the kind comes next. -/
def starts (tokens : TokenStream) : Terminal → Bool
  | word text => tokens.word?.any fun read => read.1.text = text
  | sign text => (tokens.sign? text.toList).isSome
  | underscore => tokens.word?.any fun read => read.1.text = "_"
  | name => tokens.word?.any fun read => read.1.isName
  | anyWord => tokens.word?.isSome
  | lifetime => tokens.lifetime?.isSome
  | literal => tokens.lit?.isSome || tokens.negative?.isSome
  | string =>
    tokens.lit?.any fun read => match read.1.kind with | .string .. => true | _ => false
  | integer =>
    tokens.lit?.any fun read => match read.1.kind with | .integer .. => true | _ => false
  | float =>
    tokens.lit?.any fun read => match read.1.kind with | .float .. => true | _ => false
  | delimited kind => (tokens.group? kind).isSome

end Terminal

namespace TokenStream

/-- Whether some tokens start with a token of a kind. -/
def startsWith (tokens : TokenStream) (terminal : Terminal) : Bool := terminal.starts tokens

/-- What follows the next tree, of which a lifetime is one. -/
def skip? : TokenStream → Option TokenStream
  | [] => none
  | .punct '\x27' .joint _ :: .ident _ :: rest => some rest
  | _ :: rest => some rest

/-- Whether a token of the kind stands behind the next tree. -/
def secondIs (tokens : TokenStream) (terminal : Terminal) : Bool :=
  let inside :=
    match tokens with
    | .group .invisible inner _ :: rest => (skip? (inner ++ rest)).any terminal.starts
    | _ => false
  inside || (skip? tokens).any terminal.starts

/-- Whether a token of the kind stands behind the next two trees. -/
def thirdIs (tokens : TokenStream) (terminal : Terminal) : Bool :=
  let inside :=
    match tokens with
    | .group .invisible inner _ :: rest =>
      ((skip? (inner ++ rest)).bind skip?).any terminal.starts
    | _ => false
  inside || ((skip? tokens).bind skip?).any terminal.starts

end TokenStream

end ValuedEnum
