import ValuedEnum.Proofs.Positions.Sources
import ValuedEnum.Proofs.Rereading.Worded
import ValuedEnum.Proofs.Stripping.Attributes

/-!
# Reading paths from words

A path that is read from the words of a text consists of some of them that may stand in a path. Any
path of this kind is read back from its tokens.
-/

namespace ValuedEnum

open ValuedEnum.Parser TokenStream

/-! ### Segments -/

/-- Whether a word may stand in a path. -/
def Ident.isSegment (ident : Ident) : Bool :=
  Path.segmentStarts.any (TokenStream.startsWith [.ident ident])

/-- A name may stand in a path. -/
theorem Ident.isSegment_of_isName {ident : Ident} (h : ident.isName = true) :
    ident.isSegment = true := by
  simp [isSegment, Path.segmentStarts, startsWith, Terminal.starts, word?, next?,
    TokenTree.exposedAll, TokenTree.exposed, h]

namespace Path

/-- A path of words that may stand in one. -/
def Readable (path : Path) : Prop :=
  ∀ ident ∈ path.segments, ident.IsWord ∧ ident.isSegment = true

/-- The next word decides whether a segment comes next. -/
theorem any_segmentStarts (tokens : TokenStream) :
    segmentStarts.any tokens.startsWith = tokens.word?.any fun read => read.1.isSegment := by
  have hword (ident : Ident) : word? [.ident ident] = some (ident, []) := rfl
  cases h : tokens.word? <;>
    simp [segmentStarts, startsWith, Terminal.starts, Ident.isSegment, hword, h]

section

variable {scope : Scope} {reading done : Reading}

/-- The segments that are read from worded tokens are words that may stand in a path. -/
theorem readable_of_segmentsParser {bound : Nat} {all : List Ident} (hreading : reading.rest.Worded)
    (h : segmentsParser bound scope reading = .ok (all, done)) :
    ∀ ident ∈ all, ident.IsWord ∧ ident.isSegment = true := by
  induction bound generalizing reading all with
  | zero =>
    obtain ⟨rfl, -⟩ := pure_eq_ok_iff.mp h
    simp
  | succ bound ih =>
    rcases segments_cases h with ⟨rfl, -⟩ | ⟨ident, rest, hany, hword, hmore⟩
    · simp
    · obtain ⟨hident, hrest⟩ := hreading.of_word? hword
      have hsegment : ident.isSegment = true := by simpa [any_segmentStarts, hword] using hany
      rcases hmore with ⟨-, rfl⟩ | ⟨spans, behind, more, between, hsign, rfl, hall, -, rfl⟩
      · simpa using ⟨hident, hsegment⟩
      · have hbetween := (passes_of_sign? hsign).worded hrest
        exact List.forall_mem_cons.mpr ⟨⟨hident, hsegment⟩, ih hbetween hall⟩

/-- What is read as a path consists of words that may stand in one. -/
theorem readable_of_read {path : Path} (hreading : reading.rest.Worded)
    (h : parser scope reading = .ok (path, done)) : path.Readable := by
  unfold parser at h
  extract_lets behind at h
  have hbehind (leading : Option Span) {reading : Reading} (hreading : reading.rest.Worded)
      (h : behind leading scope reading = .ok (path, done)) : path.Readable := by
    obtain ⟨tokens, first, hremaining, h⟩ := bind_eq_ok_iff.mp h
    obtain ⟨-, rfl⟩ := Prod.mk.inj (Except.ok.inj hremaining)
    obtain ⟨all, between, hall, h⟩ := bind_eq_ok_iff.mp h
    cases all with
    | nil =>
      obtain ⟨ident, last, hname, h⟩ := bind_eq_ok_iff.mp h
      obtain ⟨rfl, -⟩ := pure_eq_ok_iff.mp h
      obtain ⟨hword, hisName⟩ := word?_of_name hname
      have hbetween := (Quiet.passes trivial hall).passes.worded hreading
      simpa [Readable, segments] using
        ⟨(hbetween.of_word? hword).1, Ident.isSegment_of_isName hisName⟩
    | cons first rest =>
      obtain ⟨rfl, -⟩ := pure_eq_ok_iff.mp h
      exact readable_of_segmentsParser hreading hall
  rw [sees_bind] at h
  split at h
  · obtain ⟨span, between, hsign, h⟩ := bind_eq_ok_iff.mp h
    exact hbehind _ ((Quiet.passes trivial hsign).passes.worded hreading) h
  · exact hbehind _ hreading h

/-- Words that may stand in a path are read with the colons between them. -/
theorem segmentsParser_restTokens {ident : Ident} (hident : ident.isSegment = true)
    {rest : List Ident} (hrest : ∀ next ∈ rest, next.isSegment = true) {bound : Nat}
    (hbound : rest.length < bound) (hreading : reading.rest = .ident ident :: restTokens rest) :
    ∃ done, segmentsParser bound scope reading = .ok (ident :: rest, done) ∧
      done.rest = [] ∧ done.stray = reading.stray := by
  -- The induction is on the words behind the first one; the bound leaves one step for each.
  induction rest generalizing ident bound reading with
  | nil =>
    obtain ⟨tokens, printed, stray⟩ := reading
    obtain ⟨bound, rfl⟩ : ∃ less, bound = less + 1 := ⟨bound - 1, by omega⟩
    obtain rfl : tokens = [.ident ident] := hreading
    refine ⟨⟨[], .ident ident :: printed, stray⟩, ?_, rfl, rfl⟩
    change (if (!ident.isSegment) = true then (pure [] : Parser _) else _) scope _ = _
    rw [hident]
    rfl
  | cons next rest ih =>
    obtain ⟨tokens, printed, stray⟩ := reading
    obtain ⟨hnext, hrest⟩ := List.forall_mem_cons.mp hrest
    obtain ⟨bound, rfl⟩ : ∃ less, bound = less + 1 := ⟨bound - 1, by omega⟩
    obtain rfl : tokens = .ident ident :: (colons .nowhere ++ .ident next :: restTokens rest) :=
      hreading
    let between : Reading :=
      ⟨.ident next :: restTokens rest,
        (colons .nowhere).reverse ++ .ident ident :: printed, stray⟩
    have hmore : rest.length < bound := Nat.lt_of_succ_lt_succ hbound
    have hbetween : between.rest = .ident next :: restTokens rest := rfl
    obtain ⟨done, hdone, hend, hstray⟩ := ih hnext hrest hmore hbetween
    refine ⟨done, ?_, hend, hstray⟩
    change (if (!ident.isSegment) = true then (pure [] : Parser _) else _) scope _ = _
    rw [hident]
    refine bind_eq_ok_iff.mpr ⟨ident, _, rfl, ?_⟩
    refine bind_eq_ok_iff.mpr ⟨true, _, rfl, ?_⟩
    refine bind_eq_ok_iff.mpr ⟨(), between, rfl, ?_⟩
    exact bind_eq_ok_iff.mpr ⟨_, done, hdone, rfl⟩

/-- The bound of a reader is enough for all segments of a path. -/
theorem length_le_sizeAll_restTokens (rest : List Ident) :
    rest.length ≤ TokenTree.sizeAll (restTokens rest) := by
  induction rest with
  | nil => exact Nat.zero_le _
  | cons ident rest ih =>
    have hsize : TokenTree.sizeAll (restTokens (ident :: rest)) =
        1 + (1 + (1 + TokenTree.sizeAll (restTokens rest))) := rfl
    rw [hsize, List.length_cons]
    omega

/-- A path is read back from its tokens. -/
theorem parser_tokens {path : Path} (hpath : ∀ ident ∈ path.segments, ident.isSegment = true)
    (hreading : reading.rest = path.tokens) :
    ∃ again done, parser scope reading = .ok (again, done) ∧ Alike again path ∧ done.rest = [] ∧
      done.stray = reading.stray := by
  obtain ⟨tokens, printed, stray⟩ := reading
  obtain ⟨leading, first, rest⟩ := path
  obtain ⟨hfirst, hrest⟩ := List.forall_mem_cons.mp hpath
  -- The bound is the number of tokens that are left, so it is enough for all segments.
  have hbehind (between : Reading) (hbetween : between.rest = .ident first :: restTokens rest) :
      ∃ done, segmentsParser (TokenTree.sizeAll between.rest + 1) scope between =
        .ok (first :: rest, done) ∧ done.rest = [] ∧ done.stray = between.stray := by
    have hlength := length_le_sizeAll_restTokens rest
    have hsize : TokenTree.sizeAll between.rest = 1 + TokenTree.sizeAll (restTokens rest) := by
      rw [hbetween]
      rfl
    have hbound : rest.length < TokenTree.sizeAll between.rest + 1 := by omega
    exact segmentsParser_restTokens hfirst hrest hbound hbetween
  cases leading with
  | none =>
    obtain rfl : tokens = .ident first :: restTokens rest := hreading
    obtain ⟨done, hdone, hend, hstray⟩ := hbehind ⟨_, printed, stray⟩ rfl
    refine ⟨⟨none, first, rest⟩, done, ?_, inferInstance, hend, hstray⟩
    refine bind_eq_ok_iff.mpr ⟨false, _, rfl, ?_⟩
    refine bind_eq_ok_iff.mpr ⟨none, _, rfl, ?_⟩
    refine bind_eq_ok_iff.mpr ⟨_, _, rfl, ?_⟩
    exact bind_eq_ok_iff.mpr ⟨_, done, hdone, rfl⟩
  | some span =>
    obtain rfl : tokens = colons span ++ .ident first :: restTokens rest := hreading
    obtain ⟨done, hdone, hend, hstray⟩ :=
      hbehind ⟨_, (colons span).reverse ++ printed, stray⟩ rfl
    refine ⟨⟨some (span.through span), first, rest⟩, done, ?_, ⟨rfl⟩, hend, hstray⟩
    refine bind_eq_ok_iff.mpr ⟨true, _, rfl, ?_⟩
    refine bind_eq_ok_iff.mpr ⟨span.through span, _, rfl, ?_⟩
    refine bind_eq_ok_iff.mpr ⟨some (span.through span), _, rfl, ?_⟩
    refine bind_eq_ok_iff.mpr ⟨_, _, rfl, ?_⟩
    exact bind_eq_ok_iff.mpr ⟨_, done, hdone, rfl⟩

end

end Path

end ValuedEnum
