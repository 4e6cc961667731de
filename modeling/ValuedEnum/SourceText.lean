import ValuedEnum.Grammar

/-!
# Reading the text of a file

A byte order mark and a line that names an interpreter may stand in front of a file.
-/

namespace ValuedEnum

namespace SourceText

/-- What follows blanks and plain comments; each one uses up one of `fuel`. -/
def skipBlank : (fuel : Nat) → List Char → List Char
  | 0, text => text
  | fuel + 1, text =>
    match Lexer.comment? text with
    | some (.plain, length) => skipBlank fuel (text.drop length)
    | some (.doc .., _) => text
    | none =>
      match text with
      | c :: rest => if Text.isBlank c then skipBlank fuel rest else text
      | [] => []

/-- The text behind the line that names an interpreter. The line ends in front of its line feed. A
text that starts with an attribute has no such line. -/
def afterInterpreter (text : List Char) : List Char :=
  match text with
  | '#' :: '!' :: rest =>
    match skipBlank rest.length rest with
    | '[' :: _ => text
    | _ => text.dropWhile (· != '\n')
  | _ => text

/-- The text without the mark of its encoding in front. -/
def withoutMark (text : List Char) : List Char :=
  match text with
  | c :: rest => if c = byteOrderMark then rest else text
  | [] => []

end SourceText

/-- The items of a file. -/
def SourceFile.ofText (text : String) : Except Problem SourceFile := do
  Grammar.file (← TokenStream.ofChars
    (SourceText.afterInterpreter (SourceText.withoutMark text.toList)))

end ValuedEnum
