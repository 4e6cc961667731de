/-!
# Positions in a text

Lines count from one and columns from zero, in characters. A span ends in front of its second
position.
-/

namespace ValuedEnum

/-- A position in a text. -/
structure Position where
  line : Nat
  column : Nat
deriving DecidableEq, Repr, Inhabited

namespace Position

/-- The start of a text. -/
def origin : Position := ⟨1, 0⟩

/-- A line feed starts a line; every other character is one column wide. -/
def next (position : Position) (c : Char) : Position :=
  if c = '\n' then ⟨position.line + 1, 0⟩ else ⟨position.line, position.column + 1⟩

/-- The position behind a text. -/
def advance (position : Position) (text : List Char) : Position :=
  text.foldl next position

end Position

/-- The part of a text between two positions. -/
structure Span where
  start : Position
  stop : Position
deriving DecidableEq, Repr, Inhabited

namespace Span

/-- The span of a token that no text holds, and of the end of a whole text. -/
def nowhere : Span := ⟨.origin, .origin⟩

/-- The empty span in front of a character. -/
def before (position : Position) : Span := ⟨position, position⟩

/-- The first character of a span. -/
def first (span : Span) : Span :=
  ⟨span.start, ⟨span.start.line, span.start.column + 1⟩⟩

/-- The last character of a span that does not end with a line. -/
def last (span : Span) : Span :=
  ⟨⟨span.stop.line, span.stop.column - 1⟩, span.stop⟩

/-- From the start of one span to the end of a later one. -/
def through (span later : Span) : Span := ⟨span.start, later.stop⟩

end Span

end ValuedEnum
