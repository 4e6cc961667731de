import ValuedEnum.Text.Span

/-!
# Token trees

A source text is a list of token trees: words, signs, literals, and groups of trees between a pair
of delimiters. A group may also be invisible, as the ones around a fragment that a macro was given.
-/

namespace ValuedEnum

/-- The delimiters of a group. -/
inductive Delimiter where
  | parenthesis
  | brace
  | bracket
  | invisible
deriving DecidableEq, Repr, Inhabited

/-- Whether a sign is read together with the one behind it. -/
inductive Spacing where
  | joint
  | alone
deriving DecidableEq, Repr, Inhabited

/-- A word as written, with the mark `r#` of a raw identifier. -/
structure Ident where
  text : String
  span : Span
deriving DecidableEq, Repr, Inhabited

/-- The word without the mark of a raw identifier. -/
def Ident.bare (ident : Ident) : String :=
  match ident.text.toList with
  | 'r' :: '#' :: rest => String.ofList rest
  | _ => ident.text

/-- A token, or a group of trees between delimiters. -/
inductive TokenTree where
  | group (delimiter : Delimiter) (inner : List TokenTree) (span : Span)
  | ident (name : Ident)
  | punct (char : Char) (spacing : Spacing) (span : Span)
  | literal (text : String) (span : Span)
deriving Repr, Inhabited

/-- Some tokens in their order. -/
abbrev TokenStream := List TokenTree

namespace TokenTree

/-- Where a tree stands. -/
def span : TokenTree → Span
  | group _ _ span => span
  | ident name => name.span
  | punct _ _ span => span
  | literal _ span => span

/-- Where a reader that expected something else points: at a group's opening delimiter. -/
def frontSpan : TokenTree → Span
  | group _ _ span => span.first
  | tree => tree.span

mutual

/-- The number of trees in a tree, itself included. -/
def size : TokenTree → Nat
  | group _ inner _ => sizeAll inner + 1
  | _ => 1

/-- The number of trees in a list of trees, at any depth. -/
def sizeAll : List TokenTree → Nat
  | [] => 0
  | tree :: rest => size tree + sizeAll rest

end

mutual

/-- The same tree with every span replaced. -/
def withSpan (span : Span) : TokenTree → TokenTree
  | group delimiter inner _ => group delimiter (withSpanAll span inner) span
  | ident name => ident ⟨name.text, span⟩
  | punct char spacing _ => punct char spacing span
  | literal text _ => literal text span

/-- Some trees, all of which stand at one place. -/
def withSpanAll (span : Span) : List TokenTree → List TokenTree
  | [] => []
  | tree :: rest => withSpan span tree :: withSpanAll span rest

end

end TokenTree

namespace TokenStream

/-- From the first token to the last one. -/
def span (tokens : TokenStream) : Span :=
  match tokens.head?, tokens.getLast? with
  | some first, some last => first.span.through last.span
  | _, _ => .nowhere

/-- The signs of an operator: all but the last one are joint. -/
def signs (span : Span) : List Char → TokenStream
  | [] => []
  | [c] => [.punct c .alone span]
  | c :: rest => .punct c .joint span :: signs span rest

/-- An operator that no text holds. -/
def sign (text : String) : TokenStream := signs .nowhere text.toList

/-- A word that no text holds. -/
def word (text : String) : TokenStream := [.ident ⟨text, .nowhere⟩]

/-- Tokens in parentheses. -/
def parenthesized (tokens : TokenStream) : TokenStream := [.group .parenthesis tokens .nowhere]

/-- Tokens in brackets. -/
def bracketed (tokens : TokenStream) : TokenStream := [.group .bracket tokens .nowhere]

/-- Tokens in braces. -/
def braced (tokens : TokenStream) : TokenStream := [.group .brace tokens .nowhere]

/-- Tokens between angle brackets. -/
def angled (tokens : TokenStream) : TokenStream := sign "<" ++ tokens ++ sign ">"

/-- Words joined by `::`. -/
def path : List String → TokenStream
  | [] => []
  | [name] => word name
  | name :: rest => word name ++ sign "::" ++ path rest

end TokenStream

end ValuedEnum
