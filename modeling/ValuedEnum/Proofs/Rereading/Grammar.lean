import ValuedEnum.Proofs.Rereading.Written
import ValuedEnum.Proofs.Spelling.Grammar

/-!
# Written expressions

From written tokens, the grammar reads expressions whose literals are written, too.
-/

namespace ValuedEnum

/-- Tokens that do not start with a minus sign, except in an invisible group. -/
def TokenStream.Unsigned (tokens : TokenStream) : Prop :=
  tokens.startsWith (.sign "-") = false ∨
    ∃ inner span rest, tokens = .group .invisible inner span :: rest

namespace Parser

variable {α β : Type}

/-- Started at written tokens that meet a condition, a parser that succeeds returns something with a
property. -/
def Returns (start : TokenStream → Prop) (parser : Parser α) (post : α → Prop) : Prop :=
  ∀ ⦃scope : Scope⦄ ⦃reading : Reading⦄ ⦃result : α⦄ ⦃done : Reading⦄, reading.rest.Written →
    start reading.rest → parser scope reading = .ok (result, done) → post result

/-- A parser of written expressions. -/
class Writes (parser : Parser Expr) : Prop where
  returns : ∀ start, parser.Returns start Expr.Written

variable {start : TokenStream → Prop} {post : α → Prop}

/-- What is returned has the properties that it has. -/
theorem returns_pure {result : α} (h : post result) : Returns start (pure result) post := by
  intro scope reading other done _ _ hrun
  have hpure : (pure result : Parser α) scope reading = .ok (result, reading) := rfl
  obtain ⟨rfl, _⟩ : result = other ∧ reading = done := by simpa [hpure] using hrun
  exact h

/-- A parser that never succeeds returns nothing. -/
theorem Fails.returns {parser : Parser α} (h : parser.Fails) : parser.Returns start post := by
  intro scope reading result done _ _ hrun
  have hnone := h scope reading
  simp [hrun, Except.toOption] at hnone

/-- Whatever was read in front of it, a result that is known has the properties that it has. -/
theorem returns_of_pure (parser : Parser β) {next : β → Parser α}
    (hnext : ∀ read, ∃ result, next read = pure result ∧ post result) :
    Returns start (parser >>= next) post := by
  intro scope reading result done _ _ hrun
  rw [bind_apply] at hrun
  split at hrun
  · simp at hrun
  · rename_i first between hfirst
    obtain ⟨value, hvalue, hpost⟩ := hnext first
    have hpure : (pure value : Parser α) scope between = .ok (value, between) := rfl
    obtain ⟨rfl, _⟩ : value = result ∧ between = done := by simpa [hvalue, hpure] using hrun
    exact hpost

/-- Tokens that a quiet parser leaves are written, too. -/
theorem Returns.bind {parser : Parser β} [hquiet : parser.Quiet] {next : β → Parser α}
    {mid : β → Prop} (hparser : parser.Returns start mid)
    (hnext : ∀ result, mid result → (next result).Returns (fun _ => True) post) :
    Returns start (parser >>= next) post := by
  intro scope reading result done hreading hstart hrun
  rw [bind_apply] at hrun
  split at hrun
  · simp at hrun
  · rename_i first between hfirst
    have hbetween := (hquiet.passes trivial hfirst).passes.written hreading
    exact hnext first (hparser hreading hstart hfirst) hbetween trivial hrun

/-- What a quiet parser returns may be of no interest for what follows. -/
theorem Quiet.returns (parser : Parser β) [parser.Quiet] {next : β → Parser α}
    (hnext : ∀ result, (next result).Returns (fun _ => True) post) :
    Returns start (parser >>= next) post := by
  have hany : parser.Returns start fun _ => True := fun _ _ _ _ _ _ _ => trivial
  exact hany.bind fun result _ => hnext result

/-- What follows may depend on the tokens that are left. -/
theorem returns_remaining {next : TokenStream → Parser α}
    (h : ∀ tokens, tokens.Written → start tokens → (next tokens).Returns (· = tokens) post) :
    Returns start (remaining >>= next) post :=
  fun _ reading _ _ hreading hstart hrun => h reading.rest hreading hstart hreading rfl hrun

/-- What both branches of a parser return has the property. -/
theorem returns_ite {condition : Prop} [Decidable condition] {first second : Parser α}
    (hfirst : condition → first.Returns start post) (hsecond : second.Returns start post) :
    Returns start (if condition then first else second) post := by
  split
  · exact hfirst ‹_›
  · exact hsecond

/-- What is read in a group was written in it. -/
theorem returns_delimited {content : Parser α} (hcontent : content.Returns (fun _ => True) post)
    (delimiter : Delimiter) :
    Returns start (delimited delimiter content) fun result => post result.1 := by
  intro scope reading result done hreading _ hrun
  unfold delimited at hrun
  split at hrun
  · have hnone := fails_expected (α := α × Span) (.delimited delimiter) scope reading
    simp [hrun, Except.toOption] at hnone
  · rename_i inner span rest hgroup
    have hinner : TokenStream.Written inner :=
      TokenTree.writtenAll_iff.mpr (TokenTree.hereditary_written.of_group?
        (TokenTree.writtenAll_iff.mp hreading) hgroup).1
    split at hrun
    · simp at hrun
    · rename_i read between hread
      obtain ⟨rfl, _⟩ : (read, span) = result ∧ _ = done := by simpa using hrun
      exact hcontent hinner trivial hread

/-- A literal is written unless a minus sign stands in front of it. -/
theorem returns_literal :
    literal.Returns (fun tokens => tokens.startsWith (.sign "-") = false) Lit.Written := by
  refine returns_remaining fun tokens htokens hstart => ?_
  split
  · rename_i lit rest hlit
    exact returns_of_pure _ fun _ => ⟨lit, rfl, htokens.of_lit? hlit⟩
  · split
    · rename_i hnegative
      simp [TokenStream.startsWith_minus_of_negative? hnegative] at hstart
    · exact (fails_expected _).returns

/-- A narrower condition may be asked for. -/
theorem Returns.mono {narrower : TokenStream → Prop} {parser : Parser α}
    (h : parser.Returns start post) (hstart : ∀ tokens, narrower tokens → start tokens) :
    parser.Returns narrower post :=
  fun _ _ _ _ hreading hnarrower hrun => h hreading (hstart _ hnarrower) hrun

/-- All elements between separators have the property of one. -/
theorem returns_separated {item : Parser α} [item.Quiet] (hitem : ∀ start, item.Returns start post)
    (bound : Nat) (separator : String) (stops : TokenStream → Bool) (start : TokenStream → Prop) :
    Returns start (separated bound separator stops item) fun read => ∀ one ∈ read.1, post one := by
  induction bound generalizing start with
  | zero =>
    unfold separated
    exact returns_pure (by simp)
  | succ bound ih =>
    unfold separated
    refine Quiet.returns _ fun tokens => returns_ite (fun _ => returns_pure (by simp)) ?_
    refine (hitem _).bind fun first hfirst => Quiet.returns _ fun tokens => returns_ite ?_ ?_
    · exact fun _ => returns_pure (by simpa using hfirst)
    · refine Quiet.returns _ fun _ => (ih _).bind fun read hread => returns_pure ?_
      exact List.forall_mem_cons.mpr ⟨hfirst, hread⟩

/-- What a whole run on written tokens returns has the property. -/
theorem Returns.of_run {parser : Parser α} (h : parser.Returns (fun _ => True) post) {scope : Scope}
    {tokens : TokenStream} (htokens : tokens.Written) {result : α}
    (hrun : parser.run scope tokens = .ok result) : post result := by
  obtain ⟨done, hread, _⟩ := run_eq_ok_iff.mp hrun
  have hreading : (⟨tokens, [], none⟩ : Reading).rest.Written := htokens
  exact h hreading trivial hread

/-! ### Expressions without a known literal -/

/-- A written expression may be returned. -/
theorem Writes.of_pure {expr : Expr} (h : expr.Written) : Writes (pure expr) :=
  ⟨fun _ => returns_pure h⟩

/-- An expression that is read goes into what follows. -/
theorem Writes.bind (parser : Parser Expr) [hwrites : parser.Writes] [parser.Quiet]
    {next : Expr → Parser Expr} (hnext : ∀ expr, expr.Written → (next expr).Writes) :
    Writes (parser >>= next) :=
  ⟨fun start => (hwrites.returns start).bind fun expr hexpr => (hnext expr hexpr).returns _⟩

/-- A parser with two branches returns written expressions if both do. -/
theorem Writes.ite {condition : Prop} [Decidable condition] {first second : Parser Expr}
    (hfirst : first.Writes) (hsecond : second.Writes) :
    Writes (if condition then first else second) :=
  ⟨fun start => returns_ite (fun _ => hfirst.returns start) (hsecond.returns start)⟩

/-- What a quiet parser in front reads does not matter. -/
theorem Quiet.writes (parser : Parser α) [parser.Quiet] {next : α → Parser Expr}
    (hnext : ∀ result, (next result).Writes) : Writes (parser >>= next) :=
  ⟨fun _ => Quiet.returns parser fun result => (hnext result).returns _⟩

/-- A parser that never succeeds returns nothing that is not written. -/
theorem Fails.writes {parser : Parser Expr} (h : parser.Fails) : parser.Writes :=
  ⟨fun _ => h.returns⟩

instance (form : ExprForm) (tokens : TokenStream) : Writes (pure (.other form tokens)) :=
  .of_pure (by simp)

instance (what : Expectation) : Writes (expected what) := (fails_expected what).writes

instance (cause : Cause) (span : Span) : Writes (fail cause span) := (fails_fail cause span).writes

instance (parser : Parser α) (next : α → Parser Expr) [parser.Quiet]
    [h : ∀ result, (next result).Writes] : Writes (parser >>= next) :=
  Quiet.writes parser h

instance (condition : Prop) [Decidable condition] (first second : Parser Expr)
    [hfirst : first.Writes] [hsecond : second.Writes] :
    Writes (if condition then first else second) :=
  .ite hfirst hsecond

instance (form : ExprForm) (parser : Parser Unit) : Writes (ExprRule.compound form parser) :=
  ⟨fun _ => returns_of_pure _ fun _ => ⟨_, rfl, by simp⟩⟩

instance (left : Expr) (form : ExprForm) (parser : Parser Unit) :
    Writes (ExprRule.extended left form parser) :=
  ⟨fun _ => returns_of_pure _ fun _ => ⟨_, rfl, by simp⟩⟩

end Parser

open ValuedEnum.Parser

/-- Rules of which those of expressions read written ones, with the left operand that they are
given. -/
class Rules.Write (rules : Rules) : Prop extends rules.Keep where
  expr : ∀ structs, Writes (rules.expr structs)
  operand : ∀ structs, Writes (rules.operand structs)
  bounded : Writes rules.bounded
  continuation : ∀ {left}, left.Written → ∀ structs least,
    Writes (rules.continuation left structs least)

namespace ExprRule

variable (rules : Rules) [h : rules.Write]

instance : Writes (blockExpr rules) := by unfold blockExpr; infer_instance

instance (structs : Bool) : Writes (pathExpr rules structs) := by
  unfold pathExpr; infer_instance

/-- Calls, fields and indices behind an expression leave it written. -/
theorem writes_trailers (limit : Nat) {left : Expr} (hleft : left.Written) :
    Writes (trailers rules limit left) := by
  induction limit generalizing left with
  | zero => exact .of_pure hleft
  | succ limit ih =>
    have hmore (parser : Parser Unit) [parser.Quiet] : Writes (do
        trailers rules limit (← extended left .compound parser)) :=
      .bind _ fun _ hlonger => ih hlonger
    unfold trailers
    refine Quiet.writes _ fun tokens => ?_
    exact .ite (hmore _) (.ite (hmore _) (.ite (hmore _) (.ite (hmore _) (.of_pure hleft))))

/-- A group holds what was read in it. A path in one may go on behind it. -/
instance (structs : Bool) : Writes (groupExpr rules structs) := by
  refine ⟨fun start => ?_⟩
  unfold groupExpr
  have hread := (h.expr true).returns fun _ => True
  refine (returns_delimited hread .invisible).bind fun ⟨inner, span⟩ hinner => ?_
  have hgroup : Writes (pure (.group [] inner span)) := .of_pure (Expr.written_group.mpr hinner)
  dsimp only
  split
  · refine Quiet.returns _ fun ⟨form, more⟩ => ?_
    dsimp only
    split
    · exact hgroup.returns _
    · exact Writes.returns _
  · exact hgroup.returns _

/-- The start of an expression is written, unless it is a number with its sign. -/
theorem returns_atom (structs : Bool) :
    (atom rules structs).Returns TokenStream.Unsigned Expr.Written := by
  unfold atom
  refine returns_remaining fun tokens htokens hstart => ?_
  split
  · exact Writes.returns _
  · rename_i hgroup
    have hminus : tokens.startsWith (.sign "-") = false := by
      rcases hstart with hminus | ⟨inner, span, rest, rfl⟩
      · exact hminus
      · exact absurd rfl (hgroup _ _ _)
    refine returns_ite (fun _ => ?_) (Writes.returns _)
    have hliteral := returns_literal.mono fun rest (hrest : rest = tokens) => hrest ▸ hminus
    exact hliteral.bind fun lit hlit => returns_pure (Expr.written_literal.mpr hlit)

/-- The same is true of it with what trails it. -/
theorem returns_trailed (structs : Bool) (front : TokenStream) :
    (trailed rules structs front).Returns TokenStream.Unsigned Expr.Written := by
  unfold trailed
  refine (returns_atom rules structs).bind fun first hfirst => ?_
  have htrailers := writes_trailers rules rules.limit hfirst
  refine (htrailers.returns _).bind fun expr hexpr => ?_
  split
  · exact Writes.returns _
  · exact returns_pure (by simpa using hexpr)

instance (structs : Bool) : Writes (operandRule rules structs) := by
  have hoperand := h.operand structs
  unfold operandRule
  refine Quiet.writes _ fun front => ⟨fun start => ?_⟩
  refine returns_remaining fun tokens htokens _ => ?_
  have htrailed (hunsigned : tokens.Unsigned) :
      (trailed rules structs front).Returns (· = tokens) Expr.Written :=
    (returns_trailed rules structs front).mono fun rest hrest => hrest ▸ hunsigned
  split
  · exact htrailed (.inr ⟨_, _, _, rfl⟩)
  · refine returns_ite (fun _ => ?_) ?_
    · refine (Writes.returns _).bind fun expr hexpr => returns_pure (by simpa using hexpr)
    · split
      · refine Quiet.returns _ fun sign => (hoperand.returns _).bind fun operand hread => ?_
        exact returns_pure (Expr.written_unary.mpr hread)
      · rename_i hoperators
        have hminus := List.find?_eq_none.mp hoperators '-' (by simp)
        exact htrailed (.inl (by simpa using hminus))

/-- Operators behind a written expression continue it as a written one. -/
theorem writes_continuationRule (structs : Bool) (least : Precedence) (limit : Nat) {left : Expr}
    (hleft : left.Written) : Writes (continuationRule rules structs least limit left) := by
  induction limit generalizing left with
  | zero => exact .of_pure hleft
  | succ limit ih =>
    have hstop := Writes.of_pure hleft
    have hmore (form : ExprForm) (parser : Parser Unit) [parser.Quiet] : Writes (do
        continuationRule rules structs least limit (← extended left form parser)) :=
      .bind _ fun _ hlonger => ih hlonger
    unfold continuationRule
    refine Quiet.writes _ fun tokens => .ite hstop ?_
    split
    · exact .ite hstop (.ite inferInstance (hmore _ _))
    · refine .ite (hmore _ _) (.ite ?_ (.ite (hmore _ _) hstop))
      exact Quiet.writes _ fun opened => Quiet.writes _ fun behind => ih Expr.written_other

instance (structs : Bool) : Writes (rule rules structs) := by
  have hoperand := h.operand structs
  exact .bind _ fun left hleft => h.continuation hleft structs .jump

instance : Writes (boundedRule rules) := by
  unfold boundedRule
  refine Quiet.writes _ fun front => Quiet.writes _ fun tokens => ?_
  extract_lets rest
  have hrest (first : Expr) (hfirst : first.Written) : (rest first).Writes := by
    refine .ite (h.continuation (Expr.written_withAttributes.mpr hfirst) true .jump) ?_
    refine Quiet.writes _ fun tokens => .ite ?_ (.of_pure (Expr.written_withAttributes.mpr hfirst))
    have htrailers := writes_trailers rules rules.limit hfirst
    exact .bind _ fun longer hlonger =>
      h.continuation (Expr.written_withAttributes.mpr hlonger) true .jump
  split
  · refine .bind _ fun inner hinner => .ite (hrest inner hinner) ?_
    have htrailers := writes_trailers rules rules.limit hinner
    exact .bind _ hrest
  · have hoperand := h.operand true
    exact .ite (.bind _ hrest) (.bind _ hrest)

end ExprRule

/-! ### All phrases -/

namespace Grammar

/-- The rules of expressions read written ones, down to any depth. -/
instance (limit depth : Nat) : (Grammar.rules limit depth).Write := by
  induction depth with
  | zero =>
    have hnone : Writes (expectedAmong []) := (fails_expectedAmong []).writes
    exact ⟨fun _ => hnone, fun _ => hnone, hnone, fun _ _ _ => hnone⟩
  | succ depth ih =>
    refine ⟨fun structs => ?_, fun structs => ?_, ?_, fun hleft structs least => ?_⟩
    · exact inferInstanceAs (Writes (ExprRule.rule _ structs))
    · exact inferInstanceAs (Writes (ExprRule.operandRule _ structs))
    · exact inferInstanceAs (Writes (ExprRule.boundedRule _))
    · exact ExprRule.writes_continuationRule _ structs least _ hleft

instance (tokens : TokenStream) : (rulesFor tokens).Write :=
  inferInstanceAs (Grammar.rules _ _).Write

variable {tokens : TokenStream} (htokens : tokens.Written) {scope : Scope}
include htokens

/-- An expression takes its literal from the tokens that it is read from. -/
theorem written_of_expr {expr : Expr} (h : Grammar.expr scope tokens = .ok expr) : expr.Written :=
  ((Rules.Write.expr true).returns _).of_run htokens h

/-- The expressions of a list that is read from written tokens are written. -/
theorem written_of_exprs {exprs : List Expr} (h : Grammar.exprs scope tokens = .ok exprs) :
    ∀ expr ∈ exprs, expr.Written := by
  have hexpr : Writes (rulesFor tokens).expr := Rules.Write.expr true
  have hread := returns_separated hexpr.returns (rulesFor tokens).limit "," List.isEmpty
    fun _ => True
  have hexprs : Returns (fun _ => True) (do
      return (← commaTerminated (rulesFor tokens).limit (rulesFor tokens).expr).1)
      fun exprs => ∀ expr ∈ exprs, expr.Written :=
    hread.bind fun _ hexprs => returns_pure hexprs
  exact hexprs.of_run htokens h

end Grammar

end ValuedEnum
