import ValuedEnum.Proofs.Rereading.Grammar
import ValuedEnum.Proofs.Rereading.Token
import ValuedEnum.Proofs.Values

/-!
# Reading values back

The tokens of a value are its sign and its literal, as they are written. Their text is an expression
again, and this expression has the same value.
-/

namespace ValuedEnum

namespace Expr

/-- An expression that is written is so without the groups around it. -/
theorem Written.ungrouped {expr : Expr} (h : expr.Written) : expr.ungrouped.Written := by
  induction expr with
  | group attributes inner span ih => exact ih (written_group.mp h)
  | _ => exact h

/-- The word for a truth value is this truth value as an expression. -/
theorem ofText_bool {text : String} (h : text = "true" ∨ text = "false") :
    ∃ span, ofText text = .ok (.literal [] ⟨text, span⟩) := by
  have htokens : ∃ span, TokenStream.ofText text = .ok [.ident ⟨text, span⟩] := by
    rcases h with rfl | rfl
    · exact ⟨_, rfl⟩
    · exact ⟨_, rfl⟩
  obtain ⟨span, htokens⟩ := htokens
  refine ⟨span, (ofText_of_tokens htokens).trans ?_⟩
  rcases h with rfl | rfl
  · rfl
  · rfl

end Expr

namespace ValueType

/-- A suffix that names a type does so whatever would be wrong otherwise. -/
theorem ofSuffix_of_ok {suffix : List Char} {preset type : ValueType}
    {named : String → Option ValueType} {fault : Problem}
    (h : ofSuffix suffix preset named fault = .ok type) (other : Problem) :
    ofSuffix suffix preset named other = .ok type := by
  unfold ofSuffix at h ⊢
  grind

/-- Where a literal stands does not matter for its type. -/
theorem ofLit_of_text {lit : Lit} {type : ValueType} (h : ofLit lit = .ok type) (span : Span) :
    ofLit ⟨lit.text, span⟩ = .ok type := by
  have hkind : Lit.kind ⟨lit.text, span⟩ = lit.kind := rfl
  unfold ofLit at h ⊢
  rw [hkind]
  split at h
  all_goals first | exact h | exact ofSuffix_of_ok h _ | simp at h

/-- The placeholder has no type. -/
theorem ne_placeholder_of_ofLit {lit : Lit} {type : ValueType} (h : ofLit lit = .ok type) :
    lit.text.toList ≠ Lexer.placeholder := by
  intro htext
  have hkind : lit.kind = .other := by
    rw [Lit.kind, htext]
    rfl
  simp [ofLit, hkind] at h

end ValueType

namespace Lit

/-- A literal with a type is read back from its text, wherever it was read from. -/
theorem Written.ofText {lit : Lit} (h : lit.Written) {type : ValueType}
    (htype : ValueType.ofLit lit = .ok type) :
    ∃ span, Expr.ofText lit.text = .ok (.literal [] ⟨lit.text, span⟩) := by
  rcases h with hliteral | hbool
  · have hne := ValueType.ne_placeholder_of_ofLit htype
    exact Expr.ofText_literal (hliteral.literalLength? hne)
  · exact Expr.ofText_bool hbool

/-- A number with a type is read back from its text behind a minus sign. -/
theorem Written.ofText_minus {lit : Lit} (h : lit.Written) (hnumber : lit.isNumber = true)
    {type : ValueType} (htype : ValueType.ofLit lit = .ok type) :
    ∃ sign span, Expr.ofText ("- " ++ lit.text) =
      .ok (.unary [] '-' sign (.literal [] ⟨lit.text, span⟩)) := by
  rcases h with hliteral | hbool
  · have hne := ValueType.ne_placeholder_of_ofLit htype
    exact Expr.ofText_minus_literal (hliteral.literalLength? hne)
  · have hword : lit.isNumber = false := by
      unfold isNumber kind
      rcases hbool with htext | htext <;> rw [htext] <;> rfl
    simp [hword] at hnumber

end Lit

namespace Value

/-- The text of a value is its literal, perhaps behind a minus sign and a blank. -/
theorem text_pattern (value : Value) :
    value.pattern.text = (if value.negative then "- " else "") ++ value.lit.text := by
  have htoken : TokenTree.chars value.lit.token = value.lit.text.toList := by
    unfold Lit.token
    split <;> simp [TokenTree.chars]
  rw [← String.toList_inj, TokenStream.text, String.toList_ofList, pattern]
  cases value.negative with
  | true =>
    simp [TokenStream.sign, TokenStream.signs, Lit.tokens, TokenTree.charsAll, htoken,
      TokenTree.chars, TokenTree.gap]
  | false => simp [Lit.tokens, TokenTree.charsAll, htoken]

/-- A value with its literal at another place. -/
def movedTo (value : Value) (span : Span) : Value := { value with lit := ⟨value.lit.text, span⟩ }

/-- Apart from its place, a value that is moved has the same tokens. -/
theorem pattern_movedTo (value : Value) (span : Span) :
    TokenTree.withSpanAll .nowhere (value.movedTo span).pattern =
      TokenTree.withSpanAll .nowhere value.pattern := by
  obtain ⟨type, negative, lit⟩ := value
  have htoken : (Lit.token ⟨lit.text, span⟩).withSpan .nowhere = lit.token.withSpan .nowhere := by
    have hkind : Lit.kind ⟨lit.text, span⟩ = lit.kind := rfl
    unfold Lit.token
    rw [hkind]
    split <;> simp [TokenTree.withSpan]
  cases negative <;>
    simp [TokenTree.withSpanAll_eq_map, pattern, movedTo, Lit.tokens, htoken]

/-- A value has the same tokens elsewhere, but for their positions. -/
theorem tokens_movedTo (value : Value) (span : Span) :
    TokenTree.withSpanAll .nowhere (value.movedTo span).tokens =
      TokenTree.withSpanAll .nowhere value.tokens := by
  have hpattern := pattern_movedTo value span
  have htype : (value.movedTo span).type = value.type := rfl
  simp only [TokenTree.withSpanAll_eq_map] at hpattern ⊢
  unfold tokens
  rw [htype]
  split
  · simp [hpattern]
  · exact hpattern

/-- The text of a value is an expression with the same value at another place. -/
theorem reread_of_denotes {expr : Expr} {value : Value} (hwritten : expr.Written)
    (h : Denotes expr value) :
    ∃ again span, Expr.ofText value.pattern.text = .ok again ∧
      ofExpr again = .ok (value.movedTo span) := by
  rw [text_pattern]
  cases h with
  | literal attributes htype =>
    obtain ⟨span, hagain⟩ := (Expr.written_literal.mp hwritten).ofText htype
    have hmoved := ValueType.ofLit_of_text htype span
    exact ⟨_, span, hagain, ofExpr_of_denotes (.literal [] hmoved)⟩
  | negated outer inner sign hnumber htype hsigned =>
    have hlit := Expr.written_literal.mp (Expr.written_unary.mp hwritten)
    obtain ⟨sign, span, hagain⟩ := hlit.ofText_minus hnumber htype
    have hmoved := ValueType.ofLit_of_text htype span
    exact ⟨_, span, hagain, ofExpr_of_denotes (.negated [] [] sign hnumber hmoved hsigned)⟩

/-- What has a value is a literal with a type, or a number behind a minus sign, below any number of
groups; an unsigned number has no sign. The value is that literal as written, or a slice of it for a
byte string. The text of its pattern is read back as the same value. All literals are such that a
text can hold, wherever the expression was read from. -/
theorem ofExpr_sound_and_stable (expr : Expr) :
    (∀ value, ofExpr expr = .ok value ↔ Denotes expr.ungrouped value) ∧
      (∀ form tokens, expr.ungrouped = .other form tokens →
        ofExpr expr = .error ⟨.notALiteral, tokens.span⟩) ∧
      (∀ attributes lit, expr.ungrouped = .literal attributes lit → lit.kind = .cString →
        ofExpr expr = .error ⟨.unsupportedLiteral, lit.span⟩) ∧
      (∀ value, ofExpr expr = .ok value →
        (value.negative = true → value.type.isUnsigned = false) ∧
          value.pattern.text = (if value.negative then "- " else "") ++ value.lit.text ∧
          value.tokens = (if value.type = .byteString then
            TokenStream.sign "&" ++ value.pattern ++ TokenStream.bracketed (TokenStream.sign "..")
          else value.pattern) ∧
          (expr.Written → ∃ again reread, Expr.ofText value.pattern.text = .ok again ∧
            ofExpr again = .ok reread ∧ reread.type = value.type ∧
            TokenTree.withSpanAll .nowhere reread.pattern =
              TokenTree.withSpanAll .nowhere value.pattern ∧
            TokenTree.withSpanAll .nowhere reread.tokens =
              TokenTree.withSpanAll .nowhere value.tokens)) ∧
      (∀ scope tokens, tokens.Written → (Grammar.expr scope tokens = .ok expr ∨
        ∃ exprs, Grammar.exprs scope tokens = .ok exprs ∧ expr ∈ exprs) → expr.Written) ∧
      ∀ text tokens, TokenStream.ofText text = .ok tokens →
        tokens.Written ∧ tokens.withFragments.Written := by
  refine ⟨fun value => ofExpr_eq_ok_iff, ?_, ?_, ?_, ?_, ?_⟩
  · intro form tokens hungrouped
    rw [← ofExpr_ungrouped, hungrouped]
    rfl
  · intro attributes lit hungrouped hkind
    rw [← ofExpr_ungrouped, hungrouped]
    simp [ofExpr, ValueType.ofLit, hkind, bind, Except.bind]
  · intro value hvalue
    refine ⟨fun hnegative => ((ofLit_of_ofExpr hvalue).2 hnegative).2, text_pattern value, ?_, ?_⟩
    · unfold tokens
      split <;> simp_all
    · intro hwritten
      obtain ⟨again, span, hagain, hreread⟩ :=
        reread_of_denotes hwritten.ungrouped (denotes_of_ofExpr hvalue)
      exact ⟨again, value.movedTo span, hagain, hreread, rfl, pattern_movedTo value span,
        tokens_movedTo value span⟩
  · rintro scope tokens htokens (hexpr | ⟨exprs, hexprs, hmem⟩)
    · exact Grammar.written_of_expr htokens hexpr
    · exact Grammar.written_of_exprs htokens hexprs expr hmem
  · intro text tokens htokens
    have hwritten := TokenStream.written_ofChars htokens
    exact ⟨hwritten, hwritten.withFragments⟩

example : ["FOO", "f(1)", "(1)", "- - 1", "1 + 1", "- \"FOO\"", "- 1u8", "c\"FOO\""].all fun text =>
    match Expr.ofText text with
    | .ok expr => (ofExpr expr).toOption.isNone
    | .error _ => false := by
  decide +kernel

/-- A number behind a minus sign, handed on in a group. -/
def groupedMinusOne : Expr :=
  .group [] (.unary [] '-' .nowhere (.literal [] ⟨"1i8", .nowhere⟩)) .nowhere

/-- A byte string. -/
def bytesFoo : Expr := .literal [] ⟨"b\"FOO\"", .nowhere⟩

/-- The number of the example is written. -/
theorem written_groupedMinusOne : groupedMinusOne.Written := by
  have hliteral : Lexer.IsLiteral ['1', 'i', '8'] := Lexer.isLiteral_of_literalLength? rfl
  exact .inl hliteral

/-- The sign goes outside of the group, and a byte string becomes a slice. -/
theorem ofExpr_stable_of_groupedMinusOne :
    groupedMinusOne.Written ∧
      ofExpr groupedMinusOne = .ok ⟨.integer .i8, true, ⟨"1i8", .nowhere⟩⟩ ∧
      (∃ again reread, Expr.ofText "- 1i8" = .ok again ∧ ofExpr again = .ok reread ∧
        reread.type = .integer .i8) ∧
      (∃ value, ofExpr bytesFoo = .ok value ∧ value.pattern.text = "b\"FOO\"" ∧
        value.tokens.text = "& b\"FOO\" [..]") ∧
      ofExpr (.literal [] ⟨"c\"FOO\"", .nowhere⟩) = .error ⟨.unsupportedLiteral, .nowhere⟩ := by
  have hvalue : ofExpr groupedMinusOne = .ok ⟨.integer .i8, true, ⟨"1i8", .nowhere⟩⟩ := by rfl
  obtain ⟨-, -, -, hstable, -⟩ := ofExpr_sound_and_stable groupedMinusOne
  obtain ⟨-, htext, -, hreread⟩ := hstable _ hvalue
  obtain ⟨again, reread, hagain, hok, htype, -⟩ := hreread written_groupedMinusOne
  rw [htext] at hagain
  refine ⟨written_groupedMinusOne, hvalue, ⟨again, reread, hagain, hok, htype⟩, ?_, ?_⟩
  · have hbytes : ofExpr bytesFoo = .ok ⟨.byteString, false, ⟨"b\"FOO\"", .nowhere⟩⟩ := by rfl
    obtain ⟨-, -, -, hslice, -⟩ := ofExpr_sound_and_stable bytesFoo
    obtain ⟨-, hpattern, htokens, -⟩ := hslice _ hbytes
    refine ⟨_, hbytes, hpattern, ?_⟩
    rw [htokens]
    rfl
  · obtain ⟨-, -, hrefused, -⟩ := ofExpr_sound_and_stable (.literal [] ⟨"c\"FOO\"", .nowhere⟩)
    exact hrefused [] _ rfl rfl

end Value

end ValuedEnum
