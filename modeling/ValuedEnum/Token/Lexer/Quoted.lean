import ValuedEnum.Text.Identifier

/-!
# Quoted literals

Strings, byte strings and C strings, cooked or raw, and single characters and bytes. A cooked text
is read one character at a time; every step says what the character adds to the denoted text.
-/

namespace ValuedEnum.Lexer

/-- What a quoted literal denotes: a text, bytes, or a text without a NUL. -/
inductive QuotedKind where
  | text
  | bytes
  | cText
deriving DecidableEq, Repr, Inhabited

/-- The characters that may stand unescaped. -/
def QuotedKind.admits : QuotedKind → Char → Bool
  | .text, _ => true
  | .bytes, c => c.toNat < 128
  | .cText, c => c.toNat != 0

/-- Where a reader stands inside of a cooked text. -/
inductive Mode where
  | plain
  | lineEnd
  | escape
  | hexFirst
  | hexSecond (high : Nat)
  | codeOpening
  | code (digits value : Nat)
  | continued
  | continuedLineEnd
deriving DecidableEq, Repr

/-- What a character does in a cooked text. -/
inductive Step where
  | closed
  | next (mode : Mode) (content : List Char)
deriving DecidableEq, Repr

/-- The value of a hexadecimal digit. -/
def hexValue? (c : Char) : Option Nat :=
  if c.isDigit then some (c.toNat - '0'.toNat)
  else if 'a' ≤ c && c ≤ 'f' then some (c.toNat - 'a'.toNat + 10)
  else if 'A' ≤ c && c ≤ 'F' then some (c.toNat - 'A'.toNat + 10)
  else none

/-- The character that a short escape stands for. -/
def shortEscape? (kind : QuotedKind) (c : Char) : Option Char :=
  if c = 'n' then some '\n'
  else if c = 'r' then some '\r'
  else if c = 't' then some '\t'
  else if c = '\\' || c = '\x27' || c = '\x22' then some c
  else if c = '0' && kind != .cText then some '\x00'
  else none

/-- The step at a character outside of escapes. -/
def plainStep (kind : QuotedKind) (c : Char) : Option Step :=
  if c = '\x22' then some .closed
  else if c = '\r' then some (.next .lineEnd [])
  else if c = '\\' then some (.next .escape [])
  else if kind.admits c then some (.next .plain [c])
  else none

/-- The step at the character behind a backslash. -/
def escapeStep (kind : QuotedKind) (c : Char) : Option Step :=
  if c = 'x' then some (.next .hexFirst [])
  else if c = 'u' then if kind = .bytes then none else some (.next .codeOpening [])
  else if c = '\n' then some (.next .continued [])
  else if c = '\r' then some (.next .continuedLineEnd [])
  else (shortEscape? kind c).map fun e => .next .plain [e]

/-- The step at a character in the code of an escape. -/
def codeStep (kind : QuotedKind) (digits value : Nat) (c : Char) : Option Step :=
  match hexValue? c with
  | some digit => if digits = 6 then none else some (.next (.code (digits + 1) (value * 16 + digit)) [])
  | none =>
    if digits = 0 then none
    else if c = '_' then some (.next (.code digits value) [])
    else if c = '\x7d' && value.isValidChar && (kind != .cText || value != 0) then
      some (.next .plain [Char.ofNat value])
    else none

/-- One character of a cooked text; `none` if it may not stand there. A carriage return belongs to
a line end, and a backslash in front of a line end skips the blanks behind it. -/
def step (kind : QuotedKind) : Mode → Char → Option Step
  | .plain, c => plainStep kind c
  | .lineEnd, c => if c = '\n' then some (.next .plain ['\n']) else none
  | .escape, c => escapeStep kind c
  | .hexFirst, c =>
    match hexValue? c with
    | some high => if kind = .text && 7 < high then none else some (.next (.hexSecond high) [])
    | none => none
  | .hexSecond high, c =>
    match hexValue? c with
    | some low =>
      if kind = .cText && high * 16 + low = 0 then none
      else some (.next .plain [Char.ofNat (high * 16 + low)])
    | none => none
  | .codeOpening, c => if c = '\x7b' then some (.next (.code 0 0) []) else none
  | .code digits value, c => codeStep kind digits value c
  | .continued, c =>
    if c = ' ' || c = '\t' || c = '\n' then some (.next .continued [])
    else if c = '\r' then some (.next .continuedLineEnd [])
    else plainStep kind c
  | .continuedLineEnd, c => if c = '\n' then some (.next .continued []) else none

/-- How many characters a cooked text has with its closing quote, and what it denotes. -/
def cooked? (kind : QuotedKind) : Mode → List Char → Option (Nat × List Char)
  | _, [] => none
  | mode, c :: rest =>
    match step kind mode c with
    | none => none
    | some .closed => some (1, [])
    | some (.next mode content) =>
      (cooked? kind mode rest).map fun read => (read.1 + 1, content ++ read.2)

/-- A raw text ends with a quote and as many `#` as it started with. -/
def raw? (kind : QuotedKind) (fence : List Char) : List Char → Option (Nat × List Char)
  | [] => none
  | '\r' :: '\n' :: rest =>
    (raw? kind fence rest).map fun read => (read.1 + 2, '\r' :: '\n' :: read.2)
  | '\r' :: _ => none
  | c :: rest =>
    if c = '\x22' && fence.isPrefixOf rest then some (1 + fence.length, [])
    else if kind.admits c then (raw? kind fence rest).map fun read => (read.1 + 1, c :: read.2)
    else none

/-- At most this many `#` may stand in front of a raw text. -/
def maxFence : Nat := 255

/-- The length and the content of a raw text, from its fence on. -/
def fenced? (kind : QuotedKind) (text : List Char) : Option (Nat × List Char) :=
  let fence := text.takeWhile (· = '#')
  match text.drop fence.length with
  | '\x22' :: rest =>
    if fence.length ≤ maxFence then
      (raw? kind fence rest).map fun read => (fence.length + 1 + read.1, read.2)
    else none
  | _ => none

/-- A literal between double quotes: its length without a suffix, and what it denotes. -/
structure Quoted where
  kind : QuotedKind
  length : Nat
  content : List Char
deriving DecidableEq, Repr

/-- The literal in double quotes that a text starts with. -/
def quoted? : List Char → Option Quoted
  | '\x22' :: rest => (cooked? .text .plain rest).map fun read => ⟨.text, read.1 + 1, read.2⟩
  | 'r' :: rest => (fenced? .text rest).map fun read => ⟨.text, read.1 + 1, read.2⟩
  | 'b' :: '\x22' :: rest => (cooked? .bytes .plain rest).map fun read => ⟨.bytes, read.1 + 2, read.2⟩
  | 'b' :: 'r' :: rest => (fenced? .bytes rest).map fun read => ⟨.bytes, read.1 + 2, read.2⟩
  | 'c' :: '\x22' :: rest => (cooked? .cText .plain rest).map fun read => ⟨.cText, read.1 + 2, read.2⟩
  | 'c' :: 'r' :: rest => (fenced? .cText rest).map fun read => ⟨.cText, read.1 + 2, read.2⟩
  | _ => none

/-- The length of an escape behind its backslash. -/
def escapeLength? (kind : QuotedKind) : Mode → List Char → Option Nat
  | _, [] => none
  | mode, c :: rest =>
    match step kind mode c with
    | some (.next .plain _) => some 1
    | some (.next .continued _) | some (.next .continuedLineEnd _) => none
    | some (.next mode _) => (escapeLength? kind mode rest).map (· + 1)
    | _ => none

/-- One character or escape and a closing single quote. -/
def singleLength? (kind : QuotedKind) (text : List Char) : Option Nat :=
  let length? : Option Nat :=
    match text with
    | '\\' :: rest => (escapeLength? kind .escape rest).map (· + 1)
    | c :: _ => if kind.admits c then some 1 else none
    | [] => none
  length?.bind fun length =>
    if (text.drop length).head? = some '\x27' then some (length + 1) else none

/-- A literal between single quotes: a character, or a byte behind `b`. -/
def single? : List Char → Option (QuotedKind × Nat)
  | '\x27' :: rest => (singleLength? .text rest).map fun length => (.text, length + 1)
  | 'b' :: '\x27' :: rest => (singleLength? .bytes rest).map fun length => (.bytes, length + 2)
  | _ => none

end ValuedEnum.Lexer
