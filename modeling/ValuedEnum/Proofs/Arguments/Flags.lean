import ValuedEnum.Proofs.Arguments.Terminal

/-!
# The flags of a wrapper

The form of the tokens behind the name of a wrapper is an inductive relation here, which does not
mention the reader. What the reader of flags takes is of this form, and no key is in it twice; all
such tokens are read up to the end.
-/

namespace ValuedEnum

namespace WrapperOptions

open ValuedEnum.Parser

/-- The keys of the flags. -/
inductive Key where
  | convertOrdinal
  | throwOnCastFailure
deriving DecidableEq

/-- The word of a key. -/
def Key.word : Key → String
  | convertOrdinal => "convert_ordinal"
  | throwOnCastFailure => "throw_on_cast_failure"

/-- Keys are told apart by their words. -/
theorem Key.word_injective : Function.Injective Key.word := by
  intro first second h
  cases first <;> cases second <;> first | rfl | simp [Key.word] at h

/-- The word of a key is a name. -/
theorem Key.isName_word (key : Key) (span : Span) : Ident.isName ⟨key.word, span⟩ = true := by
  cases key <;> rfl

/-- A flag as it is written behind its comma. -/
structure Flag where
  comma : Spacing
  commaSpan : Span
  key : Key
  keySpan : Span
  equals : Spacing
  equalsSpan : Span
  tree : TokenTree
  value : Bool
  tells : Tells tree value

namespace Flag

/-- The word of a flag's key, where it is written. -/
def ident (flag : Flag) : Ident := ⟨flag.key.word, flag.keySpan⟩

/-- The tokens of a flag, as they are written. -/
def tokens (flag : Flag) : TokenStream :=
  [.punct ',' flag.comma flag.commaSpan, .ident flag.ident, .punct '=' flag.equals flag.equalsSpan,
    flag.tree]

/-- A flag as it is printed, with signs that stand alone and the word for its value. -/
def printed (flag : Flag) : TokenStream :=
  [.punct ',' .alone flag.commaSpan, .ident flag.ident, .punct '=' .alone flag.equalsSpan,
    .ident ⟨toString flag.value, flag.tree.span⟩]

/-- What stands behind a flag is shorter. -/
theorem rest_of_eq (flag : Flag) {tokens rest : TokenStream} (h : tokens = flag.tokens ++ rest)
    (hvisible : tokens.Visible) :
    TokenStream.Visible rest ∧ TokenTree.sizeAll rest < TokenTree.sizeAll tokens := by
  subst h
  simp only [tokens, List.cons_append, List.nil_append, TokenTree.visibleAll_cons,
    TokenTree.sizeAll, TokenTree.size] at hvisible ⊢
  exact ⟨hvisible.2.2.2.2, by omega⟩

/-- What a flag says, wherever it stands. -/
def entry (flag : Flag) : Key × Bool := (flag.key, flag.value)

/-- The keys of some entries are those of their flags. -/
theorem map_fst_entry (flags : List Flag) :
    (flags.map entry).map Prod.fst = flags.map Flag.key := by
  simp [entry]

/-- The tokens of a flag tell which one it is. -/
theorem append_inj {flag other : Flag} {rest behind : TokenStream}
    (h : flag.tokens ++ rest = other.tokens ++ behind) : flag = other ∧ rest = behind := by
  obtain ⟨comma, commaSpan, key, keySpan, equals, equalsSpan, tree, value, htells⟩ := flag
  simp only [tokens, ident, List.cons_append, List.nil_append, List.cons.injEq,
    TokenTree.punct.injEq, TokenTree.ident.injEq, Ident.mk.injEq, true_and] at h
  obtain ⟨⟨rfl, rfl⟩, ⟨hkey, rfl⟩, ⟨rfl, rfl⟩, rfl, rfl⟩ := h
  obtain rfl : key = other.key := Key.word_injective hkey
  obtain rfl : value = other.value := htells.unique other.tells
  exact ⟨rfl, rfl⟩

end Flag

/-- Tokens that hold some flags and perhaps one more comma. -/
inductive Lists : TokenStream → List Flag → Prop
  | nil : Lists [] []
  | comma (spacing : Spacing) (span : Span) : Lists [.punct ',' spacing span] []
  | cons (flag : Flag) {rest : TokenStream} {flags : List Flag} (h : Lists rest flags) :
      Lists (flag.tokens ++ rest) (flag :: flags)

variable {scope : Scope} {reading done : Reading}

namespace Flags

/-- What some flags say of a key, if they say anything. -/
def get (flags : Flags) : Key → Option Bool
  | .convertOrdinal => flags.convertOrdinal
  | .throwOnCastFailure => flags.throwOnCastFailure

/-- Flags are known by what they say of each key. -/
theorem ext_get {flags other : Flags} (h : ∀ key, flags.get key = other.get key) :
    flags = other := by
  cases flags
  cases other
  have hordinal := h .convertOrdinal
  have hthrow := h .throwOnCastFailure
  simp_all [get]

/-- The flags with another value for a key. -/
def put (flags : Flags) (value : Bool) : Key → Flags
  | .convertOrdinal => { flags with convertOrdinal := some value }
  | .throwOnCastFailure => { flags with throwOnCastFailure := some value }

/-- A flag that is put changes what is said of its key alone. -/
theorem get_put (flags : Flags) (value : Bool) (key other : Key) :
    (flags.put value key).get other = if other = key then some value else flags.get other := by
  cases key <;> cases other <;> rfl

/-- A flag is set if its key is known and was not set before. -/
theorem set_eq_ok_iff {flags next : Flags} {ident : Ident} {value : Bool} :
    flags.set ident value = .ok next ↔
      ∃ key, ident.text = Key.word key ∧ flags.get key = .none ∧ flags.put value key = next := by
  unfold set
  constructor
  · intro h
    split at h
    · rename_i htext
      split at h
      · simp at h
      · rename_i hnone
        exact ⟨.convertOrdinal, htext, by simpa [get] using hnone, by simpa [put] using h⟩
    · split at h
      · rename_i htext
        split at h
        · simp at h
        · rename_i hnone
          exact ⟨.throwOnCastFailure, htext, by simpa [get] using hnone, by simpa [put] using h⟩
      · simp at h
  · rintro ⟨key, htext, hget, rfl⟩
    cases key <;> simp_all [Key.word, get, put]

/-- The flags that some entries add to others: no key is given twice, or was set before. -/
structure Collects (flags : Flags) (entries : List (Key × Bool)) (all : Flags) : Prop where
  nodup : (entries.map Prod.fst).Nodup
  unset : ∀ key ∈ entries.map Prod.fst, flags.get key = .none
  get : ∀ key, all.get key = (entries.lookup key).or (flags.get key)

/-- A key that no entry has is looked up behind them. -/
theorem lookup_cons_or {key : Key} {value : Bool} {entries : List (Key × Bool)}
    (hkey : key ∉ entries.map Prod.fst) (other : Key) (before : Option Bool) :
    (((key, value) :: entries).lookup other).or before =
      (entries.lookup other).or (if other = key then some value else before) := by
  rw [List.lookup_cons]
  by_cases hother : other = key
  · have hnone : entries.lookup key = .none := by
      rw [List.lookup_eq_none_iff]
      rintro entry hentry
      have hne : key ≠ entry.1 := by
        rintro rfl
        exact hkey (List.mem_map_of_mem hentry)
      simpa using hne
    simp [hother, hnone]
  · have hbeq : (other == key) = false := by simpa using hother
    simp [hbeq, hother]

/-- No entries add nothing. -/
theorem collects_nil_iff {flags all : Flags} : flags.Collects [] all ↔ flags = all := by
  constructor
  · exact fun h => (ext_get fun key => by simpa using h.get key).symm
  · rintro rfl
    exact ⟨by simp, by simp, by simp⟩

/-- Entries are added one by one, each one by a flag that can be set. -/
theorem collects_cons_iff {flags all : Flags} {key : Key} {value : Bool}
    {entries : List (Key × Bool)} (span : Span) :
    flags.Collects ((key, value) :: entries) all ↔
      ∃ next, flags.set ⟨key.word, span⟩ value = .ok next ∧ next.Collects entries all := by
  constructor
  · rintro ⟨hnodup, hunset, hget⟩
    rw [List.map_cons, List.nodup_cons] at hnodup
    obtain ⟨hkey, hnodup⟩ := hnodup
    rw [List.map_cons, List.forall_mem_cons] at hunset
    have hne (other : Key) (hother : other ∈ entries.map Prod.fst) : other ≠ key := by
      rintro rfl
      exact hkey hother
    refine ⟨_, set_eq_ok_iff.mpr ⟨key, rfl, hunset.1, rfl⟩, hnodup, fun other hother => ?_, ?_⟩
    · rw [get_put, if_neg (hne other hother)]
      exact hunset.2 other hother
    · intro other
      rw [hget, get_put, lookup_cons_or hkey]
  · rintro ⟨next, hset, hnodup, hunset, hget⟩
    obtain ⟨known, hknown, hnone, rfl⟩ := set_eq_ok_iff.mp hset
    obtain rfl : key = known := Key.word_injective hknown
    have hkey : key ∉ entries.map Prod.fst := by
      intro hmem
      simpa [get_put] using hunset key hmem
    refine ⟨List.nodup_cons.mpr ⟨hkey, hnodup⟩, List.forall_mem_cons.mpr ⟨hnone, ?_⟩, ?_⟩
    · intro other hother
      have hnext := hunset other hother
      rw [get_put, if_neg (fun heq : other = key => hkey (heq ▸ hother))] at hnext
      exact hnext
    · intro other
      rw [hget, get_put, lookup_cons_or hkey]

end Flags

section Step

variable (hvisible : reading.rest.Visible)
include hvisible

/-- A comma is read where it is the first token. -/
theorem comma_eq_ok_iff {span : Span} :
    sign "," scope reading = .ok (span, done) ↔
      ∃ spacing rest, reading.rest = .punct ',' spacing span :: rest ∧
        done = reading.advanced rest [.punct ',' .alone span] :=
  sign_eq_ok_iff hvisible (by decide) (by decide)

/-- An equals sign is read where it is the first token. -/
theorem equals_eq_ok_iff {span : Span} :
    sign "=" scope reading = .ok (span, done) ↔
      ∃ spacing rest, reading.rest = .punct '=' spacing span :: rest ∧
        done = reading.advanced rest [.punct '=' .alone span] :=
  sign_eq_ok_iff hvisible (by decide) (by decide)

/-- Behind a comma, a name, a sign and a truth value are read. -/
theorem assignment_eq_ok_iff {α : Type} {next : Ident → Bool → Parser α} {result : α} :
    (do
      let key ← Parser.name
      let _ ← Parser.sign "="
      let value ← boolParser
      next key value : Parser α) scope reading = .ok (result, done) ↔
      ∃ key equals equalsSpan tree value rest,
        reading.rest = .ident key :: .punct '=' equals equalsSpan :: tree :: rest ∧
        key.isName = true ∧ Tells tree value ∧
        next key value scope (reading.advanced rest [.ident key, .punct '=' .alone equalsSpan,
          .ident ⟨toString value, tree.span⟩]) = .ok (result, done) := by
  constructor
  · intro hrun
    obtain ⟨key, first, hkey, hrun⟩ := bind_eq_ok_iff.mp hrun
    obtain ⟨rest, hrest, hname, rfl⟩ := (name_eq_ok_iff hvisible).mp hkey
    have hafterKey : (reading.advanced rest [.ident key]).rest.Visible := hvisible.tail hrest
    obtain ⟨equalsSpan, second, hequals, hrun⟩ := bind_eq_ok_iff.mp hrun
    obtain ⟨equals, behind, hbehind, rfl⟩ := (equals_eq_ok_iff hafterKey).mp hequals
    obtain ⟨value, third, hvalue, hrun⟩ := bind_eq_ok_iff.mp hrun
    obtain ⟨tree, last, hlast, htells, rfl⟩ :=
      (boolParser_eq_ok_iff (hafterKey.tail hbehind)).mp hvalue
    refine ⟨key, equals, equalsSpan, tree, value, last, ?_, hname, htells, by simpa using hrun⟩
    exact hrest.trans (congrArg _ (hbehind.trans (congrArg _ hlast)))
  · rintro ⟨key, equals, equalsSpan, tree, value, rest, hrest, hname, htells, hrun⟩
    refine bind_eq_ok_iff.mpr ⟨key, _, (name_eq_ok_iff hvisible).mpr ⟨_, hrest, hname, rfl⟩, ?_⟩
    have hafterKey := hvisible.tail hrest
    refine bind_eq_ok_iff.mpr ⟨equalsSpan, _,
      (equals_eq_ok_iff hafterKey).mpr ⟨equals, _, rfl, rfl⟩, ?_⟩
    refine bind_eq_ok_iff.mpr ⟨value, _,
      (boolParser_eq_ok_iff (hafterKey.tail rfl)).mpr ⟨tree, rest, rfl, htells, rfl⟩, ?_⟩
    simpa using hrun

variable {limit : Nat} {flags all : Flags}

/-- Unless nothing is left, there must be a comma in front. -/
theorem comma_of_flagsParser (hne : reading.rest ≠ [])
    (h : flagsParser (limit + 1) flags scope reading = .ok (all, done)) :
    ∃ spacing span rest, reading.rest = .punct ',' spacing span :: rest := by
  unfold flagsParser at h
  simp only [atEnd_bind, List.isEmpty_iff, hne, if_false] at h
  obtain ⟨span, _, hcomma, _⟩ := bind_eq_ok_iff.mp h
  obtain ⟨spacing, rest, hrest, _⟩ := (comma_eq_ok_iff hvisible).mp hcomma
  exact ⟨spacing, span, rest, hrest⟩

/-- A comma with nothing behind it is taken, too. -/
theorem flagsParser_of_comma {spacing : Spacing} {span : Span}
    (hrest : reading.rest = [.punct ',' spacing span]) :
    flagsParser (limit + 1) flags scope reading =
      .ok (flags, reading.advanced [] [.punct ',' .alone span]) := by
  have hcomma : sign "," scope reading = _ := (comma_eq_ok_iff hvisible).mpr ⟨_, _, hrest, rfl⟩
  unfold flagsParser
  simp only [atEnd_bind, hrest, List.isEmpty_cons]
  refine bind_eq_ok_iff.mpr ⟨span, _, hcomma, ?_⟩
  rw [atEnd_bind]
  exact pure_eq_ok_iff.mpr ⟨rfl, rfl⟩

/-- Behind a comma that is not the last token stands a flag with a known key. -/
theorem flagsParser_comma_eq_ok_iff {spacing : Spacing} {span : Span} {behind : TokenStream}
    (hfront : reading.rest = .punct ',' spacing span :: behind) (hne : behind ≠ []) :
    flagsParser (limit + 1) flags scope reading = .ok (all, done) ↔
      ∃ flag : Flag, ∃ rest next, reading.rest = flag.tokens ++ rest ∧
        flags.set flag.ident flag.value = .ok next ∧
        flagsParser limit next scope (reading.advanced rest flag.printed) = .ok (all, done) := by
  have hcomma : sign "," scope reading = _ := (comma_eq_ok_iff hvisible).mpr ⟨_, _, hfront, rfl⟩
  have hbehind : (reading.advanced behind [.punct ',' .alone span]).rest.Visible :=
    hvisible.tail hfront
  have hmore : (reading.advanced behind [.punct ',' .alone span]).rest.isEmpty = false := by
    simpa [Reading.advanced] using hne
  conv => lhs; unfold flagsParser
  simp only [atEnd_bind, hfront, List.isEmpty_cons, Bool.false_eq_true, if_false]
  rw [bind_apply, hcomma]
  simp only [atEnd_bind, hmore, Bool.false_eq_true, if_false, assignment_eq_ok_iff hbehind]
  constructor
  · rintro ⟨⟨text, keySpan⟩, equals, equalsSpan, tree, value, rest, hassignment, _, htells, hrun⟩
    cases hset : flags.set ⟨text, keySpan⟩ value with
    | error problem =>
      simp only [hset] at hrun
      exact absurd hrun (fails_throw problem).ne_ok
    | ok next =>
      simp only [hset] at hrun
      obtain ⟨key, rfl, _⟩ : ∃ key, text = Key.word key ∧ _ := Flags.set_eq_ok_iff.mp hset
      refine ⟨⟨spacing, span, key, keySpan, equals, equalsSpan, tree, value, htells⟩, rest, next,
        congrArg _ hassignment, hset, ?_⟩
      rwa [Reading.advanced_advanced] at hrun
  · rintro ⟨flag, rest, next, hrest, hset, hrun⟩
    obtain ⟨htree, hassignment⟩ := List.cons.inj hrest
    obtain ⟨-, rfl, rfl⟩ := TokenTree.punct.inj htree
    refine ⟨flag.ident, flag.equals, flag.equalsSpan, flag.tree, flag.value, rest, hassignment,
      flag.key.isName_word flag.keySpan, flag.tells, ?_⟩
    simp only [hset, Reading.advanced_advanced]
    exact hrun

/-- One step of the reader takes nothing, the last comma, or a flag with a known key. -/
theorem flagsParser_succ_eq_ok_iff :
    flagsParser (limit + 1) flags scope reading = .ok (all, done) ↔
      (reading.rest = [] ∧ flags = all ∧ reading = done) ∨
      (∃ spacing span, reading.rest = [.punct ',' spacing span] ∧ flags = all ∧
        reading.advanced [] [.punct ',' .alone span] = done) ∨
      ∃ flag : Flag, ∃ rest next, reading.rest = flag.tokens ++ rest ∧
        flags.set flag.ident flag.value = .ok next ∧
        flagsParser limit next scope (reading.advanced rest flag.printed) = .ok (all, done) := by
  have hnil (hrest : reading.rest = []) :
      flagsParser (limit + 1) flags scope reading = .ok (flags, reading) := by
    unfold flagsParser
    simp [atEnd_bind, hrest, pure_eq_ok_iff]
  constructor
  · intro hrun
    by_cases hend : reading.rest = []
    · rw [hnil hend] at hrun
      exact .inl ⟨hend, by simpa using hrun⟩
    · obtain ⟨spacing, span, rest, hrest⟩ := comma_of_flagsParser hvisible hend hrun
      by_cases hlast : rest = []
      · rw [flagsParser_of_comma hvisible (hlast ▸ hrest)] at hrun
        exact .inr (.inl ⟨spacing, span, hlast ▸ hrest, by simpa using hrun⟩)
      · exact .inr (.inr ((flagsParser_comma_eq_ok_iff hvisible hrest hlast).mp hrun))
  · rintro (⟨hrest, rfl, rfl⟩ | ⟨spacing, span, hrest, rfl, rfl⟩ | hflag)
    · exact hnil hrest
    · exact flagsParser_of_comma hvisible hrest
    · obtain ⟨flag, rest, next, hrest, hstep⟩ := hflag
      exact (flagsParser_comma_eq_ok_iff hvisible hrest (by simp)).mpr
        ⟨flag, rest, next, hrest, hstep⟩

end Step

/-- What the reader of flags takes is a list of flags, each with a key of its own, up to the end. -/
theorem lists_of_flagsParser {limit : Nat} {flags all : Flags} (hvisible : reading.rest.Visible)
    (hlimit : TokenTree.sizeAll reading.rest < limit)
    (h : flagsParser limit flags scope reading = .ok (all, done)) :
    done.rest = [] ∧ done.stray = reading.stray ∧
      ∃ list, Lists reading.rest list ∧ flags.Collects (list.map Flag.entry) all := by
  induction limit generalizing reading flags with
  | zero => omega
  | succ limit ih =>
    rcases (flagsParser_succ_eq_ok_iff hvisible).mp h with
      ⟨hrest, rfl, rfl⟩ | ⟨spacing, span, hrest, rfl, rfl⟩ | ⟨flag, rest, next, hrest, hset, hrun⟩
    · exact ⟨hrest, rfl, [], hrest ▸ .nil, Flags.collects_nil_iff.mpr rfl⟩
    · exact ⟨rfl, rfl, [], hrest ▸ .comma spacing span, Flags.collects_nil_iff.mpr rfl⟩
    · obtain ⟨hvisible, hsize⟩ := flag.rest_of_eq hrest hvisible
      have hbehind : (reading.advanced rest flag.printed).rest.Visible := hvisible
      obtain ⟨hend, hstray, list, hlists, hcollects⟩ :=
        ih hbehind (Nat.lt_of_lt_of_le hsize (by omega)) hrun
      refine ⟨hend, hstray, flag :: list, hrest ▸ .cons flag hlists, ?_⟩
      exact (Flags.collects_cons_iff flag.keySpan).mpr ⟨next, hset, hcollects⟩

/-- Flags with keys of their own are read up to the end. -/
theorem flagsParser_of_lists {list : List Flag} {limit : Nat} {flags all : Flags}
    (hvisible : reading.rest.Visible) (hlimit : TokenTree.sizeAll reading.rest < limit)
    (hlists : Lists reading.rest list)
    (h : flags.Collects (list.map Flag.entry) all) :
    ∃ printed, flagsParser limit flags scope reading = .ok (all, reading.advanced [] printed) := by
  induction limit generalizing reading flags list with
  | zero => omega
  | succ limit ih =>
    simp only [flagsParser_succ_eq_ok_iff hvisible]
    obtain ⟨tokens, htokens⟩ : ∃ tokens, reading.rest = tokens := ⟨_, rfl⟩
    rw [htokens] at hlists
    cases hlists with
    | nil =>
      have hend : reading = reading.advanced [] [] := by
        cases reading
        simp_all [Reading.advanced]
      exact ⟨[], .inl ⟨htokens, Flags.collects_nil_iff.mp h, hend⟩⟩
    | comma spacing span =>
      exact ⟨_, .inr (.inl ⟨spacing, span, htokens, Flags.collects_nil_iff.mp h, rfl⟩)⟩
    | @cons flag rest list hlists =>
      obtain ⟨next, hset, hcollects⟩ := (Flags.collects_cons_iff flag.keySpan).mp h
      obtain ⟨hvisible, hsize⟩ := flag.rest_of_eq htokens hvisible
      have hbehind : (reading.advanced rest flag.printed).rest.Visible := hvisible
      obtain ⟨printed, hrun⟩ :=
        ih hbehind (Nat.lt_of_lt_of_le hsize (by omega)) hlists hcollects
      rw [Reading.advanced_advanced] at hrun
      exact ⟨_, .inr (.inr ⟨flag, rest, next, htokens, hset, hrun⟩)⟩

end WrapperOptions

end ValuedEnum
