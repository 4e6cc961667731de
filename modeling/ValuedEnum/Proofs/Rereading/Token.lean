import ValuedEnum.Grammar
import ValuedEnum.Proofs.Decimal

/-!
# Reading literals back

A text that is one literal from its first character to its last is one token, and behind a minus
sign and a blank it is two. Either way the tokens are an expression with this literal.
-/

namespace ValuedEnum

namespace Lexer

open Text

/-- Whether a character can start a literal other than the placeholder. -/
def startsLiteral (c : Char) : Bool :=
  c.isDigit || ['\x22', '\x27', 'r', 'b', 'c'].contains c

/-- Where a literal starts, no blank, no comment and no delimiter does. -/
theorem of_startsLiteral {c : Char} (h : startsLiteral c = true) :
    isBlank c = false ∧ c ≠ '/' ∧ delimiter? c = none ∧ c ≠ byteOrderMark := by
  have hcases : (48 ≤ c.toNat ∧ c.toNat ≤ 57) ∨ c ∈ ['\x22', '\x27', 'r', 'b', 'c'] := by
    simpa [startsLiteral, Char.isDigit_iff_toNat] using h
  rcases hcases with hdigit | hmem
  · have hne (d : Char) (hd : d.toNat < 48 ∨ 57 < d.toNat) : c ≠ d := by
      rintro rfl
      omega
    refine ⟨?_, hne _ (by decide), ?_, hne _ (by decide)⟩
    · simp only [isBlank, Bool.or_eq_false_iff, beq_eq_false_iff_ne, Bool.and_eq_false_iff,
        decide_eq_false_iff_not]
      omega
    · simp only [delimiter?]
      rw [if_neg (hne _ (by decide)), if_neg (hne _ (by decide)), if_neg (hne _ (by decide)),
        if_neg (hne _ (by decide)), if_neg (hne _ (by decide)), if_neg (hne _ (by decide))]
  · simp only [List.mem_cons, List.not_mem_nil, or_false] at hmem
    rcases hmem with rfl | rfl | rfl | rfl | rfl <;> decide

/-- A text in double quotes starts like a literal. -/
theorem startsLiteral_of_quoted? {text : List Char} {read : Quoted} (h : quoted? text = some read) :
    ∃ c rest, text = c :: rest ∧ startsLiteral c = true := by
  unfold quoted? at h
  split at h <;> first | exact ⟨_, _, rfl, by decide⟩ | simp at h

/-- A literal in single quotes starts like one. -/
theorem startsLiteral_of_single? {text : List Char} {read : QuotedKind × Nat}
    (h : single? text = some read) : ∃ c rest, text = c :: rest ∧ startsLiteral c = true := by
  unfold single? at h
  split at h <;> first | exact ⟨_, _, rfl, by decide⟩ | simp at h

/-- A float starts with a digit. -/
theorem isDigit_of_floatDigits? {text : List Char} {digits : Nat}
    (h : floatDigits? text = some digits) : ∃ c rest, text = c :: rest ∧ c.isDigit = true := by
  unfold floatDigits? at h
  split at h
  · exact ⟨_, _, rfl, (Option.ite_none_right_eq_some.mp h).1⟩
  · simp at h

/-- Decimal digits start with a digit and not with a gap. -/
theorem isDigit_of_digitsLength? {text : List Char} {digits : Nat}
    (h : digitsLength? 10 true text = some digits) :
    ∃ c rest, text = c :: rest ∧ c.isDigit = true := by
  cases text with
  | nil => simp [digitsLength?] at h
  | cons c rest =>
    refine ⟨c, rest, rfl, ?_⟩
    have hlow (digit : Nat) (hvalue : hexValue? c = some digit) (hlt : digit < 10) :
        c.isDigit = true := by
      unfold hexValue? at hvalue
      grind
    unfold digitsLength? at h
    grind

/-- An integer starts with a digit. -/
theorem isDigit_of_intDigits? {text : List Char} {digits : Nat}
    (h : intDigits? text = some digits) : ∃ c rest, text = c :: rest ∧ c.isDigit = true := by
  unfold intDigits? at h
  split at h
  · exact ⟨_, _, rfl, by decide⟩
  · exact ⟨_, _, rfl, by decide⟩
  · exact ⟨_, _, rfl, by decide⟩
  · exact isDigit_of_digitsLength? h

/-- A number starts with a digit. -/
theorem isDigit_of_numberLength? {text : List Char} {length : Nat}
    (h : numberLength? text = some length) : ∃ c rest, text = c :: rest ∧ c.isDigit = true := by
  unfold numberLength? at h
  split at h
  · rename_i hfloat
    obtain ⟨digits, hdigits, _⟩ := Option.bind_eq_some_iff.mp hfloat
    exact isDigit_of_floatDigits? hdigits
  · obtain ⟨digits, hdigits, _⟩ := Option.bind_eq_some_iff.mp h
    exact isDigit_of_intDigits? hdigits

/-- Every literal starts like one. -/
theorem startsLiteral_of_literalLength? {text : List Char} {length : Nat}
    (h : literalLength? text = some length) :
    ∃ c rest, text = c :: rest ∧ startsLiteral c = true := by
  unfold literalLength? at h
  split at h
  · exact startsLiteral_of_quoted? ‹_›
  · split at h
    · exact startsLiteral_of_single? ‹_›
    · obtain ⟨c, rest, rfl, hdigit⟩ := isDigit_of_numberLength? h
      exact ⟨c, rest, rfl, by simp [startsLiteral, hdigit]⟩

/-- A literal at the front of a text is the first piece of it. -/
theorem piece?_of_literalLength? {text : List Char} {length : Nat}
    (h : literalLength? text = some length) : piece? text = some (.literal, length) := by
  obtain ⟨c, rest, rfl, hstarts⟩ := startsLiteral_of_literalLength? h
  obtain ⟨hblank, hslash, hdelimiter, _⟩ := of_startsLiteral hstarts
  have hcomment : comment? (c :: rest) = none := by
    unfold comment?
    split <;> simp_all
  simp [piece?, hblank, hcomment, hdelimiter, leaf?, h]

/-- What the lexer cuts off the front of some text as a literal. -/
def IsLiteral (literal : List Char) : Prop :=
  ∃ behind, piece? (literal ++ behind) = some (.literal, literal.length)

/-- A text that is one literal needs nothing behind it. -/
theorem isLiteral_of_literalLength? {literal : List Char}
    (h : literalLength? literal = some literal.length) : IsLiteral literal :=
  ⟨[], by simpa using piece?_of_literalLength? h⟩

/-! ### Lexing -/

/-- One piece is read at a time. -/
theorem read_of_piece? {text : List Char} {piece : Piece} {length : Nat}
    (hpiece : piece? text = some (piece, length)) {start : Position} {frames frames' : List Frame}
    {trees trees' : List TokenTree}
    (hplace : place? piece (text.take length) start (start.advance (text.take length)) frames
      trees = some (frames', trees')) (fuel : Nat) :
    read (fuel + 1) start text frames trees =
      read fuel (start.advance (text.take length)) (text.drop length) frames' trees' := by
  cases text with
  | nil => simp [piece?] at hpiece
  | cons c rest =>
    rw [read.eq_def]
    simp only [hpiece, hplace]

/-- At the end of a text, all its trees are there. -/
theorem read_nil (fuel : Nat) (start : Position) (trees : List TokenTree) :
    read fuel start [] [] trees = .ok trees.reverse := by
  cases fuel with
  | zero => exact rfl
  | succ fuel => exact rfl

/-- A text that is one literal is the last token. -/
theorem read_of_literalLength? {text : List Char} (h : literalLength? text = some text.length)
    (fuel : Nat) (start : Position) (trees : List TokenTree) :
    ∃ span, read (fuel + 1) start text [] trees =
      .ok (trees.reverse ++ [.literal (String.ofList text) span]) := by
  refine ⟨⟨start, start.advance text⟩, ?_⟩
  have hplace : place? .literal (text.take text.length) start
      (start.advance (text.take text.length)) [] trees =
        some ([], .literal (String.ofList text) ⟨start, start.advance text⟩ :: trees) := by
    rw [List.take_length]
    rfl
  rw [read_of_piece? (piece?_of_literalLength? h) hplace, List.drop_length, read_nil,
    List.reverse_cons]

end Lexer

namespace TokenStream

open Lexer

/-- A text that is one literal is one token. -/
theorem ofText_of_literalLength? {text : String}
    (h : literalLength? text.toList = some text.toList.length) :
    ∃ span, ofText text = .ok [.literal text span] := by
  obtain ⟨c, rest, htext, hstarts⟩ := startsLiteral_of_literalLength? h
  obtain ⟨_, _, _, hmark⟩ := of_startsLiteral hstarts
  obtain ⟨span, hread⟩ := read_of_literalLength? h rest.length .origin []
  rw [String.ofList_toList, htext] at hread
  refine ⟨span, ?_⟩
  rw [ofText, htext, ofChars, if_neg hmark]
  exact hread

/-- Behind a minus sign and a blank, a text that is one literal is the second token. -/
theorem ofText_minus_of_literalLength? {text : String}
    (h : literalLength? text.toList = some text.toList.length) :
    ∃ sign span, ofText ("- " ++ text) = .ok [.punct '-' .alone sign, .literal text span] := by
  obtain ⟨c, rest, htext, _⟩ := startsLiteral_of_literalLength? h
  have hminus : piece? ('-' :: ' ' :: c :: rest) = some (.punct '-' .alone, 1) := rfl
  have hblank : piece? (' ' :: c :: rest) = some (.blank, 1) := rfl
  have hfront : ("- " ++ text).toList = '-' :: ' ' :: c :: rest := by
    rw [String.toList_append, htext]
    rfl
  obtain ⟨span, hread⟩ := read_of_literalLength? h rest.length _
    [.punct '-' .alone ⟨.origin, Position.origin.advance ['-']⟩]
  rw [String.ofList_toList, htext] at hread
  refine ⟨⟨.origin, Position.origin.advance ['-']⟩, span, ?_⟩
  rw [ofText, hfront]
  change read (rest.length + 3) .origin ('-' :: ' ' :: c :: rest) [] [] = _
  rw [read_of_piece? hminus rfl]
  exact (read_of_piece? hblank rfl _).trans hread

end TokenStream

namespace Expr

/-- The expression that a whole text is. -/
def ofText (text : String) : Except Problem Expr := do
  Grammar.expr .whole (← TokenStream.ofText text)

/-- The expression of a text is the one of its tokens. -/
theorem ofText_of_tokens {text : String} {tokens : TokenStream}
    (h : TokenStream.ofText text = .ok tokens) : ofText text = Grammar.expr .whole tokens := by
  rw [ofText, h]
  rfl

/-- A text that is one literal is this literal as an expression. -/
theorem ofText_literal {text : String}
    (h : Lexer.literalLength? text.toList = some text.toList.length) :
    ∃ span, ofText text = .ok (.literal [] ⟨text, span⟩) := by
  obtain ⟨span, htokens⟩ := TokenStream.ofText_of_literalLength? h
  -- The grammar looks at the kinds of these tokens only.
  exact ⟨span, (ofText_of_tokens htokens).trans rfl⟩

/-- A minus sign belongs to the literal behind it. -/
theorem ofText_minus_literal {text : String}
    (h : Lexer.literalLength? text.toList = some text.toList.length) :
    ∃ sign span, ofText ("- " ++ text) = .ok (.unary [] '-' sign (.literal [] ⟨text, span⟩)) := by
  obtain ⟨sign, span, htokens⟩ := TokenStream.ofText_minus_of_literalLength? h
  exact ⟨sign, span, (ofText_of_tokens htokens).trans rfl⟩

end Expr

end ValuedEnum
