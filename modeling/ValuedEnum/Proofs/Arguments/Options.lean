import ValuedEnum.Proofs.Arguments.Flags

/-!
# The options of a wrapper

Options are read from a name and a list of flags with distinct keys, and from no other tokens. So
neither the order of the flags nor a comma behind the last one matters.
-/

namespace ValuedEnum

namespace WrapperOptions

open ValuedEnum.Parser

variable {scope : Scope} {reading done : Reading}

/-- The options that a name and some flags stand for. -/
def ofFlags (name : Ident) (flags : List Flag) : WrapperOptions :=
  let entries := flags.map Flag.entry
  ⟨name, (entries.lookup .convertOrdinal).getD true,
    (entries.lookup .throwOnCastFailure).getD false⟩

/-- Flags can be collected if no two of them have the same key. -/
theorem exists_collects_iff {name : Ident} {flags : List Flag} {options : WrapperOptions} :
    (∃ all, Flags.none.Collects (flags.map Flag.entry) all ∧
      options = ⟨name, all.convertOrdinal.getD true, all.throwOnCastFailure.getD false⟩) ↔
      (flags.map Flag.key).Nodup ∧ options = ofFlags name flags := by
  have hkeys := Flag.map_fst_entry flags
  constructor
  · rintro ⟨all, ⟨hnodup, _, hget⟩, rfl⟩
    have hordinal : all.convertOrdinal = _ := hget .convertOrdinal
    have hthrow : all.throwOnCastFailure = _ := hget .throwOnCastFailure
    refine ⟨hkeys ▸ hnodup, ?_⟩
    simp [ofFlags, hordinal, hthrow, Flags.get, Flags.none]
  · rintro ⟨hnodup, rfl⟩
    refine ⟨⟨_, _⟩, ⟨hkeys ▸ hnodup, fun key _ => by cases key <;> rfl, fun key => ?_⟩, rfl⟩
    cases key <;> simp [Flags.get, Flags.none]

/-- A name is read, and then the flags. -/
theorem parser_eq_ok_iff (hvisible : reading.rest.Visible) {options : WrapperOptions} :
    parser scope reading = .ok (options, done) ↔
      ∃ tree name rest flags, reading.rest = tree :: rest ∧ Names tree name ∧
        flagsParser (TokenTree.sizeAll rest + 1) .none scope (reading.advanced rest [tree]) =
          .ok (flags, done) ∧
        options = ⟨name, flags.convertOrdinal.getD true, flags.throwOnCastFailure.getD false⟩ := by
  unfold parser
  rw [atEnd_bind]
  -- Without any tokens the name is missing, and no tree is left to be one.
  by_cases hend : reading.rest = []
  · simp only [hend, List.isEmpty_nil, if_true]
    constructor
    · exact fun hrun => absurd hrun (Fails.of_next fun _ => fails_fail _ _).ne_ok
    · rintro ⟨tree, name, rest, flags, hrest, _⟩
      cases hrest
  · simp only [List.isEmpty_iff, hend, if_false]
    constructor
    · intro hrun
      obtain ⟨name, first, hname, hrun⟩ := bind_eq_ok_iff.mp hrun
      obtain ⟨tree, rest, hrest, hnames, rfl⟩ := (nameParser_eq_ok_iff hvisible).mp hname
      rw [remaining_bind] at hrun
      obtain ⟨flags, last, hflags, hrun⟩ := bind_eq_ok_iff.mp hrun
      obtain ⟨rfl, rfl⟩ := pure_eq_ok_iff.mp hrun
      exact ⟨tree, name, rest, flags, hrest, hnames, hflags, rfl⟩
    · rintro ⟨tree, name, rest, flags, hrest, hnames, hflags, rfl⟩
      refine bind_eq_ok_iff.mpr ⟨name, _,
        (nameParser_eq_ok_iff hvisible).mpr ⟨tree, rest, hrest, hnames, rfl⟩, ?_⟩
      rw [remaining_bind]
      exact bind_eq_ok_iff.mpr ⟨flags, done, hflags, pure_eq_ok_iff.mpr ⟨rfl, rfl⟩⟩

/-- Entries with keys of their own may stand in any order. -/
theorem lookup_of_perm {entries other : List (Key × Bool)} (h : entries.Perm other)
    (hnodup : (entries.map Prod.fst).Nodup) (key : Key) :
    entries.lookup key = other.lookup key := by
  induction h with
  | nil => rfl
  | cons entry _ ih =>
    obtain ⟨first, value⟩ := entry
    rw [List.lookup_cons, List.lookup_cons, ih (List.nodup_cons.mp hnodup).2]
  | swap first second rest =>
    obtain ⟨first, value⟩ := first
    obtain ⟨second, other⟩ := second
    have hne : second ≠ first := by
      rintro rfl
      simp at hnodup
    simp only [List.lookup_cons]
    cases hfirst : key == first <;> cases hsecond : key == second <;> simp_all
  | trans h _ ih ih' => exact (ih hnodup).trans (ih' ((h.map _).nodup_iff.mp hnodup))

variable {tokens : TokenStream}

/-- Options are read from a name and flags with distinct keys, and are what these stand for. -/
theorem ofTokens_eq_ok_iff (hvisible : tokens.Visible) {options : WrapperOptions} :
    ofTokens scope tokens = .ok options ↔ ∃ tree name rest flags, tokens = tree :: rest ∧
      Names tree name ∧ Lists rest flags ∧ (flags.map Flag.key).Nodup ∧
      options = ofFlags name flags := by
  have hstart : (⟨tokens, [], none⟩ : Reading).rest.Visible := hvisible
  unfold ofTokens
  simp only [run_eq_ok_iff, parser_eq_ok_iff hstart]
  constructor
  · rintro ⟨done, ⟨tree, name, rest, flags, htokens, hnames, hrun, hoptions⟩, _, _⟩
    have hbehind : (Reading.advanced ⟨tokens, [], none⟩ rest [tree]).rest.Visible :=
      hvisible.tail htokens
    obtain ⟨-, -, list, hlists, hcollects⟩ :=
      lists_of_flagsParser hbehind (Nat.lt_succ_self _) hrun
    exact ⟨tree, name, rest, list, htokens, hnames, hlists,
      exists_collects_iff.mp ⟨flags, hcollects, hoptions⟩⟩
  · rintro ⟨tree, name, rest, list, htokens, hnames, hlists, hoptions⟩
    obtain ⟨flags, hcollects, hoptions⟩ := exists_collects_iff.mpr hoptions
    have hbehind : (Reading.advanced ⟨tokens, [], none⟩ rest [tree]).rest.Visible :=
      hvisible.tail htokens
    obtain ⟨printed, hrun⟩ := flagsParser_of_lists hbehind (Nat.lt_succ_self _) hlists hcollects
    exact ⟨_, ⟨tree, name, rest, flags, htokens, hnames, hrun, hoptions⟩, rfl, rfl⟩

/-- Flags hold no groups, whatever stands in front of them. -/
theorem Lists.visible_cons {list : List Flag} (h : Lists tokens list) {tree : TokenTree}
    {rest : TokenStream} (hrest : TokenStream.Visible (tree :: rest)) :
    TokenStream.Visible (tree :: tokens) := by
  have htokens : tokens.Visible := by
    induction h with
    | nil => simp [TokenTree.VisibleAll]
    | comma => simp [TokenTree.VisibleAll]
    | cons flag _ ih => simpa [Flag.tokens, flag.tells.visible] using ih
  exact TokenTree.visibleAll_cons.mpr ⟨(TokenTree.visibleAll_cons.mp hrest).1, htokens⟩

/-- Tokens hold one list of flags at most. -/
theorem Lists.eq {flags other : List Flag} (h : Lists tokens flags) (hother : Lists tokens other) :
    flags = other := by
  induction h generalizing other with
  | nil =>
    generalize hempty : ([] : TokenStream) = tokens at hother
    cases hother <;> simp_all [Flag.tokens]
  | comma spacing span =>
    generalize hcomma : ([.punct ',' spacing span] : TokenStream) = tokens at hother
    cases hother <;> simp_all [Flag.tokens]
  | @cons flag rest flags _ ih =>
    generalize hfront : flag.tokens ++ rest = tokens at hother
    cases hother with
    | nil => simp [Flag.tokens] at hfront
    | comma => simp [Flag.tokens] at hfront
    | @cons found behind others hbehind =>
      obtain ⟨rfl, rfl⟩ := Flag.append_inj hfront
      rw [ih hbehind]

/-- Reordering the flags keeps the options, and so does a comma behind them. -/
theorem ofTokens_of_perm {tree : TokenTree} {first second : TokenStream} {flags other : List Flag}
    (hvisible : TokenStream.Visible (tree :: first))
    (hfirst : Lists first flags) (hsecond : Lists second other)
    (hperm : (flags.map Flag.entry).Perm (other.map Flag.entry)) (place : Scope)
    {options : WrapperOptions} (h : ofTokens scope (tree :: first) = .ok options) :
    ofTokens place (tree :: second) = .ok options := by
  obtain ⟨_, name, _, list, hfront, hnames, hlists, hnodup, rfl⟩ :=
    (ofTokens_eq_ok_iff hvisible).mp h
  obtain ⟨rfl, rfl⟩ := List.cons.inj hfront
  obtain rfl := hfirst.eq hlists
  refine (ofTokens_eq_ok_iff (hsecond.visible_cons hvisible)).mpr
    ⟨tree, name, second, other, rfl, hnames, hsecond, ?_, ?_⟩
  · rw [← Flag.map_fst_entry] at hnodup ⊢
    exact (hperm.map _).nodup_iff.mp hnodup
  · have hlookup := lookup_of_perm hperm (by rwa [Flag.map_fst_entry])
    simp only [ofFlags, hlookup]

/-- Options are read from a name and a list of flags, each with a key of its own, and from nothing
else. A flag has the value that is given for it, or its preset one. Neither the order of the flags
nor a comma behind them matters, and neither does the place. -/
theorem ofTokens_accepts_iff (hvisible : tokens.Visible) (scope : Scope) :
    (∀ options, ofTokens scope tokens = .ok options ↔
      ∃ tree name rest flags, tokens = tree :: rest ∧ Names tree name ∧ Lists rest flags ∧
        (flags.map Flag.key).Nodup ∧ options = ofFlags name flags) ∧
      ∀ tree rest flags, tokens = tree :: rest → Lists rest flags →
        ∀ reordered others, Lists reordered others →
          (flags.map Flag.entry).Perm (others.map Flag.entry) →
            ∀ place, (ofTokens place (tree :: reordered)).toOption =
              (ofTokens scope tokens).toOption := by
  refine ⟨fun options => ofTokens_eq_ok_iff hvisible, ?_⟩
  rintro tree rest flags rfl hlists reordered others hothers hperm place
  have hvisible' := hothers.visible_cons hvisible
  ext options
  simp only [toOption_eq_some_iff]
  exact ⟨ofTokens_of_perm hvisible' hothers hlists hperm.symm scope,
    ofTokens_of_perm hvisible hlists hothers hperm place⟩

example :
    (["r#fn,", "\"Foo\", throw_on_cast_failure = true, convert_ordinal = false,"].all fun text =>
      (TokenStream.ofText text >>= ofTokens .whole).toOption.isSome) ∧
      ["fn", "\"Foo\"x", "Foo,,", "Foo, r#convert_ordinal = true", "Foo, convert_ordinal",
        "Foo, convert_ordinal = true, convert_ordinal = true"].all fun text =>
          (TokenStream.ofText text >>= ofTokens .whole).toOption.isNone := by
  decide +kernel

/-- Both flags of a wrapper that is named in quotes. -/
def bothFlags : List Flag :=
  [⟨.alone, .nowhere, .throwOnCastFailure, .nowhere, .alone, .nowhere, _, _, .word true .nowhere⟩,
    ⟨.alone, .nowhere, .convertOrdinal, .nowhere, .alone, .nowhere, _, _, .word false .nowhere⟩]

/-- The tokens of the options, with a comma behind the last flag. -/
def quotedFoo : TokenStream :=
  .literal "\"Foo\"" .nowhere :: (bothFlags.flatMap Flag.tokens ++ [.punct ',' .alone .nowhere])

/-- The tokens of the example hold no invisible groups. -/
theorem visible_quotedFoo : quotedFoo.Visible := by
  simp [quotedFoo, bothFlags, Flag.tokens, TokenTree.VisibleAll]

/-- Both flags with a comma behind the last one are flags. -/
theorem lists_bothFlags : Lists (bothFlags.flatMap Flag.tokens ++ [.punct ',' .alone .nowhere])
    bothFlags :=
  .cons _ (.cons _ (.comma .alone .nowhere))

/-- The flags of this wrapper may be swapped, and the comma behind them may be left out. -/
theorem ofTokens_accepts_quotedFoo :
    quotedFoo.Visible ∧
      ofTokens .whole quotedFoo = .ok ⟨⟨"Foo", .nowhere⟩, false, true⟩ ∧
      (ofTokens .whole
        (.literal "\"Foo\"" .nowhere :: bothFlags.reverse.flatMap Flag.tokens)).toOption =
        some ⟨⟨"Foo", .nowhere⟩, false, true⟩ := by
  obtain ⟨haccepts, hreordered⟩ := ofTokens_accepts_iff visible_quotedFoo .whole
  have htext : LitKind.ofText "\"Foo\"".toList = .string ['F', 'o', 'o'] [] := by decide
  have hcontent : TokenStream.ofChars ['F', 'o', 'o'] =
      .ok [.ident ⟨"Foo", ⟨.origin, Position.origin.advance ['F', 'o', 'o']⟩⟩] := by rfl
  have hnames : Names (.literal "\"Foo\"" .nowhere) ⟨"Foo", .nowhere⟩ :=
    .quoted .nowhere htext hcontent (by decide)
  have hok : ofTokens .whole quotedFoo = .ok ⟨⟨"Foo", .nowhere⟩, false, true⟩ :=
    (haccepts _).mpr ⟨_, _, _, bothFlags, rfl, hnames, lists_bothFlags, by decide, rfl⟩
  refine ⟨visible_quotedFoo, hok, ?_⟩
  have hswapped : Lists (bothFlags.reverse.flatMap Flag.tokens) bothFlags.reverse :=
    .cons _ (.cons _ .nil)
  have hperm : (bothFlags.map Flag.entry).Perm (bothFlags.reverse.map Flag.entry) :=
    (List.reverse_perm bothFlags).symm.map _
  rw [hreordered _ _ bothFlags rfl lists_bothFlags _ bothFlags.reverse hswapped hperm, hok]
  rfl

end WrapperOptions

end ValuedEnum
