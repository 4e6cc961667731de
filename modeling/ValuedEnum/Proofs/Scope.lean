import ValuedEnum.WrapperOptions

/-!
# The end of a scope

Where a scope ends decides where a fault at its end is reported, and nothing else: the options of a
wrapper are the same ones, or missing, wherever their tokens stand.
-/

namespace ValuedEnum

/-- A result is kept, and no fault is. -/
theorem toOption_eq_some_iff {ε α : Type} {result : Except ε α} {value : α} :
    result.toOption = some value ↔ result = .ok value := by
  cases result <;> simp [Except.toOption]

/-- Two results with one success are equal, or both are faults. -/
theorem eq_or_error_of_toOption_eq {ε α : Type} {first second : Except ε α}
    (h : first.toOption = second.toOption) :
    (∃ result, first = .ok result ∧ second = .ok result) ∨
      ∃ fault other, first = .error fault ∧ second = .error other := by
  cases first <;> cases second <;> simp_all [Except.toOption]

namespace Parser

variable {α β : Type}

/-- A parser that succeeds in all scopes or in none, with the same result. -/
def IgnoresScope (parser : Parser α) : Prop :=
  ∀ scope other reading, (parser scope reading).toOption = (parser other reading).toOption

/-- A parser that never succeeds. -/
def Fails (parser : Parser α) : Prop := ∀ scope reading, (parser scope reading).toOption = none

/-- A parser that never succeeds does so in any scope. -/
theorem Fails.ignoresScope {parser : Parser α} (h : parser.Fails) : parser.IgnoresScope :=
  fun scope other reading => (h scope reading).trans (h other reading).symm

/-- The second of two parsers goes on where the first one ended, in the same scope. -/
theorem bind_apply (parser : Parser α) (next : α → Parser β) (scope : Scope) (reading : Reading) :
    (parser >>= next) scope reading =
      match parser scope reading with
      | .error problem => .error problem
      | .ok (result, done) => next result scope done := by
  change (parser scope reading >>= fun read => next read.1 scope read.2) = _
  cases parser scope reading <;> rfl

/-- What is just returned does not depend on the scope. -/
theorem ignoresScope_pure (result : α) : IgnoresScope (pure result) := fun _ _ _ => rfl

/-- Two parsers in a row ignore the scope if both do. -/
theorem IgnoresScope.bind {parser : Parser α} {next : α → Parser β} (hparser : parser.IgnoresScope)
    (hnext : ∀ result, (next result).IgnoresScope) : IgnoresScope (parser >>= next) := by
  intro scope other reading
  rw [bind_apply, bind_apply]
  rcases eq_or_error_of_toOption_eq (hparser scope other reading) with
    ⟨done, hscope, hother⟩ | ⟨problem, another, hscope, hother⟩
  · rw [hscope, hother]
    exact hnext done.1 scope other done.2
  · rw [hscope, hother]
    rfl

/-- What follows a failure does not matter, and neither does what comes before one. -/
theorem Fails.of_next {parser : Parser α} {next : α → Parser β}
    (hnext : ∀ result, (next result).Fails) : Fails (parser >>= next) := by
  intro scope reading
  rw [bind_apply]
  cases parser scope reading with
  | error problem => rfl
  | ok done => exact hnext done.1 scope done.2

/-! ### Faults -/

/-- A fault is no result. -/
theorem fails_fail (cause : Cause) (span : Span) : Fails (fail cause span : Parser α) :=
  fun _ _ => rfl

/-- A fault that is passed on is no result. -/
theorem fails_throw (problem : Problem) : Fails (throw problem : Parser α) := fun _ _ => rfl

/-- A fault at the next token is no result, and only its position depends on the scope. -/
theorem fails_failHere (cause : (atEnd : Bool) → Cause) : Fails (failHere cause : Parser α) :=
  .of_next fun _ => .of_next fun _ => fails_fail _ _

/-- A fault that names what was expected is no result. -/
theorem fails_expected (what : Expectation) : Fails (expected what : Parser α) :=
  fails_failHere _

/-! ### Tokens -/

/-- The tokens that are left do not depend on the scope. -/
theorem ignoresScope_remaining : IgnoresScope remaining := fun _ _ _ => rfl

/-- Whether any tokens are left does not depend on the scope. -/
theorem ignoresScope_atEnd : IgnoresScope atEnd := fun _ _ _ => rfl

/-- What comes next does not depend on the scope. -/
theorem ignoresScope_sees (terminal : Terminal) : IgnoresScope (sees terminal) := fun _ _ _ => rfl

/-- Tokens are taken in any scope. -/
theorem ignoresScope_advance (rest tokens : TokenStream) : IgnoresScope (advance rest tokens) :=
  fun _ _ _ => rfl

/-- A name is the same one in any scope. -/
theorem ignoresScope_name : IgnoresScope name := by
  refine ignoresScope_remaining.bind fun tokens => ?_
  split
  · split
    · exact (ignoresScope_advance _ _).bind fun _ => ignoresScope_pure _
    · exact (fails_failHere _).ignoresScope
  · exact (fails_expected _).ignoresScope

/-- A literal is the same one in any scope. -/
theorem ignoresScope_literal : IgnoresScope literal := by
  refine ignoresScope_remaining.bind fun tokens => ?_
  split
  · exact (ignoresScope_advance _ _).bind fun _ => ignoresScope_pure _
  · split
    · exact (ignoresScope_advance _ _).bind fun _ => ignoresScope_pure _
    · exact (fails_expected _).ignoresScope

/-- An operator that was read has a first sign. -/
theorem spans_ne_nil_of_sign? {c : Char} {more : List Char} {tokens rest : TokenStream}
    {spans : List Span} (h : tokens.sign? (c :: more) = some (spans, rest)) : spans ≠ [] := by
  simp only [TokenStream.sign?] at h
  split at h
  · split at h
    · simp only [Option.map_eq_some_iff, Prod.mk.injEq] at h
      obtain ⟨read, _, rfl, _⟩ := h
      simp
    · simp at h
  · simp at h

/-- A sign stands somewhere, so its position does not depend on the scope. -/
theorem ignoresScope_sign {text : String} (htext : text ≠ "") : IgnoresScope (sign text) := by
  refine ignoresScope_remaining.bind fun tokens => ?_
  split
  · rename_i spans rest hsign
    refine (ignoresScope_advance _ _).bind fun _ => ?_
    split
    · exact ignoresScope_pure _
    · rename_i hspans
      -- Only an operator without signs would be reported where the scope ends.
      obtain ⟨c, more, hchars⟩ : ∃ c more, text.toList = c :: more :=
        List.exists_cons_of_ne_nil (by simpa using htext)
      rw [hchars] at hsign
      obtain ⟨first, others, rfl⟩ := List.exists_cons_of_ne_nil (spans_ne_nil_of_sign? hsign)
      exact absurd (List.getLast?_eq_some_getLast (List.cons_ne_nil first others))
        (hspans _ _ rfl)
  · split
    · exact (fails_fail _ _).ignoresScope
    · exact (Fails.of_next fun _ => fails_fail _ _).ignoresScope

/-- All tokens of a scope are read if the parser succeeds and nothing in sight is left over. -/
theorem run_eq_ok_iff {parser : Parser α} {scope : Scope} {tokens : TokenStream} {result : α} :
    parser.run scope tokens = .ok result ↔
      ∃ done, parser scope ⟨tokens, [], none⟩ = .ok (result, done) ∧ done.stray = none ∧
        strayAmong .invisible done.rest = none := by
  unfold Parser.run
  constructor
  · intro hrun
    grind
  · rintro ⟨done, hread, hstray, hrest⟩
    simp [hread, hstray, hrest]

/-- All tokens of a scope are read in any scope. -/
theorem IgnoresScope.run {parser : Parser α} (hparser : parser.IgnoresScope) (scope other : Scope)
    (tokens : TokenStream) :
    (parser.run scope tokens).toOption = (parser.run other tokens).toOption := by
  unfold Parser.run
  rcases eq_or_error_of_toOption_eq (hparser scope other ⟨tokens, [], none⟩) with
    ⟨done, hscope, hother⟩ | ⟨problem, another, hscope, hother⟩
  · rw [hscope, hother]
  · rw [hscope, hother]
    rfl

end Parser

namespace WrapperOptions

open ValuedEnum.Parser

/-- The name of a wrapper is the same one in any scope. -/
theorem ignoresScope_nameParser : IgnoresScope nameParser := by
  refine (ignoresScope_sees _).bind fun isString => ?_
  split
  · refine ignoresScope_literal.bind fun lit => ?_
    split
    · unfold nameParser.liftExcept
      split
      · exact ignoresScope_pure _
      · exact (fails_throw _).ignoresScope
    · exact (fails_expected _).ignoresScope
  · exact ignoresScope_name

/-- The value of a flag is the same one in any scope. -/
theorem ignoresScope_boolParser : IgnoresScope boolParser := by
  refine ignoresScope_remaining.bind fun tokens => ?_
  split
  · split
    · exact (ignoresScope_advance _ _).bind fun _ => ignoresScope_pure _
    · exact (fails_expected _).ignoresScope
  · exact (fails_expected _).ignoresScope

/-- The flags of a wrapper are the same ones in any scope. -/
theorem ignoresScope_flagsParser (limit : Nat) (flags : Flags) :
    IgnoresScope (flagsParser limit flags) := by
  induction limit generalizing flags with
  | zero => exact ignoresScope_pure flags
  | succ limit ih =>
    refine ignoresScope_atEnd.bind fun done => ?_
    split
    · exact ignoresScope_pure flags
    · refine (ignoresScope_sign (by decide)).bind fun _ => ignoresScope_atEnd.bind fun done => ?_
      split
      · exact ignoresScope_pure flags
      · refine ignoresScope_name.bind fun key => (ignoresScope_sign (by decide)).bind fun _ =>
          ignoresScope_boolParser.bind fun value => ?_
        split
        · exact ih _
        · exact (fails_throw _).ignoresScope

/-- The options of a wrapper are the same ones in any scope. -/
theorem ignoresScope_wrapperOptions : IgnoresScope parser := by
  refine ignoresScope_atEnd.bind fun done => ?_
  have hrest : IgnoresScope (do
      let name ← nameParser
      let flags ← flagsParser (TokenTree.sizeAll (← Parser.remaining) + 1) .none
      return (⟨name, flags.convertOrdinal.getD true, flags.throwOnCastFailure.getD false⟩ :
        WrapperOptions)) :=
    ignoresScope_nameParser.bind fun name => ignoresScope_remaining.bind fun tokens =>
      (ignoresScope_flagsParser _ _).bind fun flags => ignoresScope_pure _
  split
  · exact (Fails.of_next fun _ => fails_fail _ _).ignoresScope
  · exact hrest

/-- The options of a wrapper do not depend on where the scope of their tokens ends. -/
theorem toOption_ofTokens (scope other : Scope) (tokens : TokenStream) :
    (ofTokens scope tokens).toOption = (ofTokens other tokens).toOption :=
  ignoresScope_wrapperOptions.run scope other tokens

end WrapperOptions

end ValuedEnum
