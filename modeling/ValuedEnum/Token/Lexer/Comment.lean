/-!
# Comments

Plain comments are blank. A documentation comment stands for an attribute with its text; block
comments nest.
-/

namespace ValuedEnum.Lexer

/-- The length of a block comment that is `depth` levels deep. -/
def blockLength? : (depth : Nat) → List Char → Option Nat
  | _, [] => none
  | depth, '/' :: '*' :: rest => (blockLength? (depth + 1) rest).map (· + 2)
  | depth, '*' :: '/' :: rest =>
    if depth ≤ 1 then some 2 else (blockLength? (depth - 1) rest).map (· + 2)
  | depth, _ :: rest => (blockLength? depth rest).map (· + 1)

/-- The characters up to the end of the line. -/
def lineText (text : List Char) : List Char := text.takeWhile (· != '\n')

/-- The text of a line comment: a carriage return in front of a line feed is no part of it. -/
def lineContent (text : List Char) : List Char :=
  let line := lineText text
  if line.length < text.length && line.getLast? = some '\r' then line.dropLast else line

/-- Whether every carriage return is part of a line end. -/
def returnsPaired : List Char → Bool
  | [] => true
  | '\r' :: '\n' :: rest => returnsPaired rest
  | '\r' :: _ => false
  | _ :: rest => returnsPaired rest

/-- What a comment is for. -/
inductive Comment where
  | plain
  | doc (inner : Bool) (content : List Char)
deriving DecidableEq, Repr

/-- The comment that a text starts with, and its length. -/
def comment? (text : List Char) : Option (Comment × Nat) :=
  match text with
  | '/' :: '/' :: rest =>
    let whole := (lineText text).length
    match rest with
    | '!' :: rest => doc true (lineContent rest) whole
    | '/' :: '/' :: _ => some (.plain, whole)
    | '/' :: rest => doc false (lineContent rest) whole
    | _ => some (.plain, whole)
  | '/' :: '*' :: rest =>
    (blockLength? 0 text).bind fun whole =>
      let content := (text.take (whole - 2)).drop 3
      match rest with
      | '!' :: _ => doc true content whole
      | '*' :: '*' :: _ => some (.plain, whole)
      | '*' :: '/' :: _ => some (.plain, whole)
      | '*' :: _ => doc false content whole
      | _ => some (.plain, whole)
  | _ => none
where
  doc (inner : Bool) (content : List Char) (whole : Nat) : Option (Comment × Nat) :=
    if returnsPaired content then some (.doc inner content, whole) else none

end ValuedEnum.Lexer
