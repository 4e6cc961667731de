import ValuedEnum.Token.Basic

/-!
# The text of tokens

Tokens are separated by one space, except behind a joint sign. Braces stand apart from what they
hold; an invisible group prints as its contents.
-/

namespace ValuedEnum

namespace TokenTree

/-- What stands between a tree and the next one. -/
def gap : TokenTree → List Char
  | punct _ .joint _ => []
  | _ => [' ']

mutual

/-- The characters of a tree. -/
def chars : TokenTree → List Char
  | group .parenthesis inner _ => '(' :: charsAll inner ++ [')']
  | group .bracket inner _ => '[' :: charsAll inner ++ [']']
  | group .brace [] _ => ['\x7b', ' ', '\x7d']
  | group .brace (tree :: rest) _ =>
    '\x7b' :: ' ' :: charsAll (tree :: rest) ++ [' ', '\x7d']
  | group .invisible inner _ => charsAll inner
  | ident name => name.text.toList
  | punct char _ _ => [char]
  | literal text _ => text.toList

/-- The characters of some trees, with what separates each from the next one. -/
def charsAll : List TokenTree → List Char
  | [] => []
  | [tree] => chars tree
  | tree :: next :: rest => chars tree ++ gap tree ++ charsAll (next :: rest)

end

end TokenTree

/-- The text of a token stream. -/
def TokenStream.text (tokens : TokenStream) : String := String.ofList (TokenTree.charsAll tokens)

end ValuedEnum
