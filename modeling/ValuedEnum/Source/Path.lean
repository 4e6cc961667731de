import ValuedEnum.Token.Printer

/-!
# Paths of attributes and visibilities

Words joined by `::`, with no type arguments.
-/

namespace ValuedEnum

/-- A path of words. -/
structure Path where
  /-- The `::` in front of the path. -/
  leading : Option Span
  first : Ident
  rest : List Ident
deriving DecidableEq, Repr, Inhabited

namespace Path

/-- All words of a path. -/
def segments (path : Path) : List Ident := path.first :: path.rest

/-- The last word of a path. -/
def last (path : Path) : Ident := path.rest.getLastD path.first

/-- The only word of a path that is nothing else. -/
def ident? (path : Path) : Option Ident :=
  if path.leading.isNone && path.rest.isEmpty then some path.first else none

/-- Whether a path is a given word and nothing else. -/
def isWord (path : Path) (text : String) : Bool :=
  path.ident?.any fun ident => ident.text = text

/-- The colons in front of a word. -/
def colons (span : Span) : TokenStream := TokenStream.signs span [':', ':']

/-- The tokens behind the first word of a path. -/
def restTokens : List Ident → TokenStream
  | [] => []
  | ident :: rest => colons .nowhere ++ .ident ident :: restTokens rest

/-- The tokens of a path. -/
def tokens (path : Path) : TokenStream :=
  (path.leading.map colons).getD [] ++ .ident path.first :: restTokens path.rest

/-- The path as it is named in messages. -/
def text (path : Path) : String :=
  (if path.leading.isSome then "::" else "") ++ "::".intercalate (path.segments.map Ident.text)

end Path

end ValuedEnum
