import ValuedEnum.Proofs.Spelling.Passing
import ValuedEnum.Source.Expr
import ValuedEnum.Token.Fragment

/-!
# Written literals

A literal token is not any text: it is one that the lexer cuts off as a literal somewhere. This file
proves that of the tokens of a text, and that the grammar takes the literals of its expressions from
such tokens. A number that is read together with its minus sign would be an exception, but no rule
of expressions reads one.
-/

namespace ValuedEnum

namespace TokenTree

mutual

/-- Whether all literals of a tree are texts that the lexer cuts off as literals. -/
def Written : TokenTree → Prop
  | group _ inner _ => WrittenAll inner
  | ident _ => True
  | punct .. => True
  | literal text _ => Lexer.IsLiteral text.toList

/-- Whether all literals of some trees are such texts. -/
def WrittenAll : List TokenTree → Prop
  | [] => True
  | tree :: rest => Written tree ∧ WrittenAll rest

end

/-- A group is written if its content is. -/
@[simp] theorem written_group {delimiter : Delimiter} {inner : List TokenTree} {span : Span} :
    (group delimiter inner span).Written ↔ WrittenAll inner := by
  rw [Written]

/-- Words hold no literals. -/
@[simp] theorem written_ident {name : Ident} : (ident name).Written := by simp [Written]

/-- Signs hold no literals. -/
@[simp] theorem written_punct {char : Char} {spacing : Spacing} {span : Span} :
    (punct char spacing span).Written := by
  simp [Written]

/-- A literal is written if the lexer cuts it off a text. -/
@[simp] theorem written_literal {text : String} {span : Span} :
    (literal text span).Written ↔ Lexer.IsLiteral text.toList := by
  rw [Written]

/-- Trees are written if each of them is. -/
theorem writtenAll_iff {trees : List TokenTree} :
    WrittenAll trees ↔ ∀ tree ∈ trees, tree.Written := by
  induction trees with
  | nil => simp [WrittenAll]
  | cons tree rest ih => rw [WrittenAll, List.forall_mem_cons, ih]

/-- Trees are written one by one from the front. -/
@[simp] theorem writtenAll_cons {tree : TokenTree} {rest : List TokenTree} :
    WrittenAll (tree :: rest) ↔ tree.Written ∧ WrittenAll rest := by
  rw [WrittenAll]

/-- The trees in a group are written if the group is. -/
theorem hereditary_written : Hereditary Written :=
  fun _ _ _ h => writtenAll_iff.mp (written_group.mp h)

/-- Groups do not change their contents when they become invisible. -/
theorem writtenAll_joinMarkers {trees : List TokenTree} (h : WrittenAll trees) :
    WrittenAll (joinMarkers trees) := by
  fun_induction joinMarkers trees with
  | case1 name inner span rest hmarker ih =>
    simp only [writtenAll_cons, written_ident, written_group, true_and] at h ⊢
    exact ⟨h.1, ih h.2⟩
  | case2 name inner span rest hmarker ih =>
    rw [writtenAll_cons] at h ⊢
    exact ⟨h.1, ih h.2⟩
  | case3 tree rest hplain ih =>
    rw [writtenAll_cons] at h ⊢
    exact ⟨h.1, ih h.2⟩
  | case4 => exact h

mutual

/-- Marked groups become invisible, and all literals are kept. -/
theorem written_withFragments {tree : TokenTree} (h : tree.Written) :
    tree.withFragments.Written := by
  cases tree with
  | group delimiter inner span =>
    rw [withFragments, written_group]
    exact writtenAll_joinMarkers (writtenAll_withFragmentsAll (written_group.mp h))
  | _ => simpa only [withFragments] using h

/-- The same is true of some trees at once. -/
theorem writtenAll_withFragmentsAll {trees : List TokenTree} (h : WrittenAll trees) :
    WrittenAll (withFragmentsAll trees) := by
  cases trees with
  | nil => rwa [withFragmentsAll]
  | cons tree rest =>
    rw [writtenAll_cons] at h
    rw [withFragmentsAll, writtenAll_cons]
    exact ⟨written_withFragments h.1, writtenAll_withFragmentsAll h.2⟩

end

end TokenTree

namespace TokenStream

open TokenTree

/-- Tokens whose literals are texts that the lexer cuts off as literals. -/
abbrev Written (tokens : TokenStream) : Prop := WrittenAll tokens

/-- What is left behind was there before, so it is written if all tokens were. -/
theorem Passes.written {tokens rest : TokenStream} (h : tokens.Passes rest)
    (htokens : tokens.Written) : rest.Written :=
  writtenAll_iff.mpr (h.of_hereditary hereditary_written (writtenAll_iff.mp htokens))

/-- The literals of a text are written in it. -/
theorem written_ofChars {text : List Char} {tokens : TokenStream}
    (h : ofChars text = .ok tokens) : tokens.Written := by
  have hwritten : Lexer.Lexical TokenTree.Written :=
    { group := fun _ _ _ _ hinner => written_group.mpr (writtenAll_iff.mpr hinner)
      ident := fun _ _ => written_ident
      punct := fun _ _ _ => written_punct
      literal := fun _ _ hliteral => written_literal.mpr hliteral }
  exact writtenAll_iff.mpr (hwritten.of_ofChars h)

/-- The tokens of a text stay written when its marked groups become invisible. -/
theorem Written.withFragments {tokens : TokenStream} (h : tokens.Written) :
    tokens.withFragments.Written :=
  writtenAll_joinMarkers (writtenAll_withFragmentsAll h)

end TokenStream

/-! ### Literals and expressions -/

/-- A literal as it stands in a text, or a truth value. -/
def Lit.Written (lit : Lit) : Prop :=
  Lexer.IsLiteral lit.text.toList ∨ lit.text = "true" ∨ lit.text = "false"

namespace TokenStream

open TokenTree

variable {tokens rest : TokenStream}

/-- The next one of written tokens is written. -/
theorem Written.of_next? (h : tokens.Written) {tree : TokenTree}
    (hnext : tokens.next? = some (tree, rest)) : tree.Written :=
  (hereditary_written.of_next? (writtenAll_iff.mp h) hnext).1

/-- The next one of written tokens, if it is a literal, is written. -/
theorem Written.of_lit? (h : tokens.Written) {lit : Lit} (hlit : tokens.lit? = some (lit, rest)) :
    lit.Written := by
  unfold lit? at hlit
  split at hlit
  · rename_i hnext
    obtain ⟨rfl, _⟩ : _ = lit ∧ _ = rest := by simpa using hlit
    exact .inl (written_literal.mp (h.of_next? hnext))
  · split at hlit
    · rename_i htext
      obtain ⟨rfl, _⟩ : _ = lit ∧ _ = rest := by simpa using hlit
      exact .inr (by simpa using htext)
    · simp at hlit
  · simp at hlit

/-- A number behind a minus sign starts with this sign. -/
theorem startsWith_minus_of_negative? {minus : Span} {lit : Lit}
    (h : tokens.negative? = some (minus, lit, rest)) : tokens.startsWith (.sign "-") = true := by
  unfold negative? at h
  split at h
  · rename_i hpunct
    simp [startsWith, Terminal.starts, sign?, hpunct]
  · simp at h

end TokenStream

namespace Expr

/-- Whether the literal of an expression is written, below its signs and groups. -/
def Written : Expr → Prop
  | literal _ lit => lit.Written
  | unary _ _ _ operand => operand.Written
  | group _ inner _ => inner.Written
  | other .. => True

/-- A literal is written as an expression if it is by itself. -/
@[simp] theorem written_literal {attributes : TokenStream} {lit : Lit} :
    (literal attributes lit).Written ↔ lit.Written := by
  rw [Written]

/-- A sign in front of an operand is no part of a literal. -/
@[simp] theorem written_unary {attributes : TokenStream} {operator : Char} {sign : Span}
    {operand : Expr} : (unary attributes operator sign operand).Written ↔ operand.Written := by
  rw [Written]

/-- An invisible group around an expression is no part of a literal. -/
@[simp] theorem written_group {attributes : TokenStream} {inner : Expr} {span : Span} :
    (group attributes inner span).Written ↔ inner.Written := by
  rw [Written]

/-- Other expressions are no literals. -/
@[simp] theorem written_other {form : ExprForm} {tokens : TokenStream} :
    (other form tokens).Written := by
  simp [Written]

/-- Attributes in front of an expression are no part of a literal. -/
@[simp] theorem written_withAttributes {front : TokenStream} {expr : Expr} :
    (expr.withAttributes front).Written ↔ expr.Written := by
  unfold withAttributes
  split <;> simp

end Expr

end ValuedEnum
