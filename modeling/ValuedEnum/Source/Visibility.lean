import ValuedEnum.Source.Path

/-!
# Visibilities
-/

namespace ValuedEnum

/-- Where something can be seen from. -/
inductive Visibility where
  | inherited
  | anywhere
  /-- Visible inside of a module; `marked` if the word `in` stands in front of its path. -/
  | inside (marked : Bool) (path : Path)
deriving DecidableEq, Repr, Inhabited

namespace Visibility

/-- The tokens of a visibility. -/
def tokens : Visibility → TokenStream
  | inherited => []
  | anywhere => TokenStream.word "pub"
  | inside marked path =>
    TokenStream.word "pub" ++
      TokenStream.parenthesized ((if marked then TokenStream.word "in" else []) ++ path.tokens)

/-- The path without the blanks between its tokens. -/
def pathText (path : Path) : String :=
  String.ofList ((TokenTree.charsAll path.tokens).filter (· != ' '))

/-- The visibility as it is shown to a reader. -/
def text : Visibility → String
  | inherited => ""
  | anywhere => "pub"
  | inside true path => "pub(in " ++ pathText path ++ ")"
  | inside false path => "pub(" ++ pathText path ++ ")"

end Visibility

end ValuedEnum
