import ValuedEnum.Problem
import ValuedEnum.Text.Quoted
import ValuedEnum.Token.Lexer.Comment
import ValuedEnum.Token.Lexer.Number

/-!
# Reading tokens

A text is cut into pieces, each at least one character long, and the pieces between a pair of
delimiters become a group. `TokenStream.ofText` fails at the first piece that is no token, at a
closing delimiter without its opening one, and at the opening delimiter that is never closed.
-/

namespace ValuedEnum

namespace Lexer

open Text

/-- What one piece of a text is. -/
inductive Piece where
  | blank
  | doc (inner : Bool) (content : List Char)
  | opening (delimiter : Delimiter)
  | closing (delimiter : Delimiter)
  | ident
  | punct (char : Char) (spacing : Spacing)
  | literal
deriving DecidableEq, Repr

/-- The literal that the expansion of a faulty macro leaves behind. -/
def placeholder : List Char := ['(', '/', '*', 'E', 'R', 'R', 'O', 'R', '*', '/', ')']

/-- The characters that are signs. -/
def signs : List Char :=
  ['~', '!', '@', '#', '$', '%', '^', '&', '*', '-', '=', '+', '|', ';', ':', ',', '<', '.', '>',
    '/', '?', '\x27']

/-- Whether a text starts with a comment. -/
def startsComment : List Char → Bool
  | '/' :: '/' :: _ => true
  | '/' :: '*' :: _ => true
  | _ => false

/-- Whether a sign, and not a comment, comes next. -/
def startsSign (text : List Char) : Bool :=
  match text with
  | [] => false
  | c :: _ => signs.contains c && !startsComment text

/-- The beginnings of quoted and raw literals, which are no words. -/
def literalFronts : List (List Char) :=
  [['r', '\x22'], ['r', '#', '\x22'], ['r', '#', '#'], ['b', '\x22'], ['b', '\x27'],
    ['b', 'r', '\x22'], ['b', 'r', '#'], ['c', '\x22'], ['c', 'r', '\x22'], ['c', 'r', '#']]

/-- Words that have no raw form. -/
def neverRaw (word : List Char) : Bool :=
  ["_", "super", "self", "Self", "crate"].contains (String.ofList word)

/-- The length of a word, raw or not. -/
def wordLength? (text : List Char) : Option Nat :=
  match text with
  | 'r' :: '#' :: rest =>
    (identifierLength? rest).bind fun length =>
      if neverRaw (rest.take length) then none else some (length + 2)
  | _ => identifierLength? text

/-- The length of the word that a text starts with, unless it opens a literal. -/
def identLength? (text : List Char) : Option Nat :=
  if literalFronts.any (·.isPrefixOf text) then none else wordLength? text

/-- The length of a literal with its suffix. -/
def literalLength? (text : List Char) : Option Nat :=
  match quoted? text with
  | some read => some (withTail read.length)
  | none =>
    match single? text with
    | some read => some (withTail read.2)
    | none => numberLength? text
where
  withTail (length : Nat) : Nat := length + (identifierLength? (text.drop length)).getD 0

/-- A quote is the front of a lifetime, whose word no further quote may end. -/
def lifetimeFront (rest : List Char) : Bool :=
  match wordLength? rest with
  | none => false
  | some length =>
    match rest.drop length with
    | '\x27' :: _ => false
    | '#' :: _ => ['r', '#'].isPrefixOf rest
    | _ => true

/-- The sign that a text starts with. -/
def punct? (text : List Char) : Option Piece :=
  match text with
  | [] => none
  | c :: rest =>
    if !startsSign text then none
    else if c = '\x27' then if lifetimeFront rest then some (.punct c .joint) else none
    else some (.punct c (if startsSign rest then .joint else .alone))

/-- A literal, a sign or a word. -/
def leaf? (text : List Char) : Option (Piece × Nat) :=
  match literalLength? text with
  | some length => some (.literal, length)
  | none =>
    match punct? text with
    | some piece => some (piece, 1)
    | none =>
      match identLength? text with
      | some length => some (.ident, length)
      | none => if placeholder.isPrefixOf text then some (.literal, placeholder.length) else none

/-- The delimiter that a character opens or closes. -/
def delimiter? (c : Char) : Option Piece :=
  if c = '(' then some (.opening .parenthesis)
  else if c = '[' then some (.opening .bracket)
  else if c = '\x7b' then some (.opening .brace)
  else if c = ')' then some (.closing .parenthesis)
  else if c = ']' then some (.closing .bracket)
  else if c = '\x7d' then some (.closing .brace)
  else none

/-- The first piece of a text that is not empty, and its length. -/
def piece? (text : List Char) : Option (Piece × Nat) :=
  match text with
  | [] => none
  | c :: _ =>
    if isBlank c then some (.blank, 1)
    else
      match comment? text with
      | some (.plain, length) => some (.blank, length)
      | some (.doc inner content, length) => some (.doc inner content, length)
      | none =>
        match delimiter? c with
        | some piece => if placeholder.isPrefixOf text then leaf? text else some (piece, 1)
        | none => leaf? text

/-- The attribute that a documentation comment stands for; all its tokens have the comment's
span. -/
def docTokens (inner : Bool) (content : List Char) (span : Span) : TokenStream :=
  .punct '#' .alone span :: (if inner then [.punct '!' .alone span] else []) ++
    [.group .bracket
      [.ident ⟨"doc", span⟩, .punct '=' .alone span,
        .literal (String.ofList (quote content)) span] span]

/-- A group whose closing delimiter is still to come: the trees in front of it, last one first. -/
structure Frame where
  delimiter : Delimiter
  start : Position
  before : List TokenTree

/-- The open groups and the trees of the innermost one with one more piece, which stands between
`start` and `stop`; `none` if it closes a group that is not the innermost one. -/
def place? (piece : Piece) (front : List Char) (start stop : Position) (frames : List Frame)
    (trees : List TokenTree) : Option (List Frame × List TokenTree) :=
  let span : Span := ⟨start, stop⟩
  match piece with
  | .blank => some (frames, trees)
  | .doc inner content => some (frames, (docTokens inner content span).reverse ++ trees)
  | .opening delimiter => some (⟨delimiter, start, trees⟩ :: frames, [])
  | .closing delimiter =>
    match frames with
    | [] => none
    | frame :: frames =>
      if frame.delimiter = delimiter then
        some (frames, .group delimiter trees.reverse ⟨frame.start, stop⟩ :: frame.before)
      else none
  | .ident => some (frames, .ident ⟨String.ofList front, span⟩ :: trees)
  | .punct char spacing => some (frames, .punct char spacing span :: trees)
  | .literal => some (frames, .literal (String.ofList front) span :: trees)

/-- Reads a text with the groups that are open, innermost first, and the trees of the innermost one,
last one first. Every piece uses up one of `fuel`. -/
def read : (fuel : Nat) → Position → List Char → List Frame → List TokenTree →
    Except Problem TokenStream
  | _, _, [], [], trees => .ok trees.reverse
  | _, _, [], frame :: _, _ => .error ⟨.unreadable, .before frame.start⟩
  | 0, start, _ :: _, _, _ => .error ⟨.unreadable, .before start⟩
  | fuel + 1, start, c :: rest, frames, trees =>
    match piece? (c :: rest) with
    | none => .error ⟨.unreadable, .before start⟩
    | some (piece, length) =>
      let front := (c :: rest).take length
      let stop := start.advance front
      match place? piece front start stop frames trees with
      | none => .error ⟨.unreadable, .before start⟩
      | some (frames, trees) => read fuel stop ((c :: rest).drop length) frames trees

end Lexer

/-- The byte order mark. -/
def byteOrderMark : Char := '\ufeff'

/-- The tokens of a text; a byte order mark in front of them is one column wide. -/
def TokenStream.ofChars (text : List Char) : Except Problem TokenStream :=
  match text with
  | c :: rest =>
    if c = byteOrderMark then
      Lexer.read rest.length (Position.origin.next c) rest [] []
    else Lexer.read text.length .origin text [] []
  | [] => .ok []

/-- The tokens of a text. -/
def TokenStream.ofText (text : String) : Except Problem TokenStream := ofChars text.toList

end ValuedEnum
