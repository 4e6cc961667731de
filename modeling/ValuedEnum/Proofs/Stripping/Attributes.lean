import ValuedEnum.Proofs.Stripping.Parsed

/-!
# Reading attributes again

The tokens of an attribute that was read are read as an attribute with the same path. So the
attributes in front of a printed enumeration ask for a wrapper if and only if they did before.
-/

namespace ValuedEnum

open ValuedEnum.Parser TokenStream

variable {scope : Scope} {reading done : Reading} {back : TokenStream}

namespace Path

/-- The colons of a path are read again. -/
theorem sign?_colons (span : Span) (rest : TokenStream) :
    sign? [':', ':'] (colons span ++ rest) = some ([span, span], rest) := by
  rfl

/-- The colons of a path are seen again. -/
theorem startsWith_colons (span : Span) (rest : TokenStream) :
    startsWith (colons span ++ rest) (.sign "::") = true := by
  rfl

/-- The segments of a path are read as these segments, or not at all. -/
theorem segments_of_tokens {ident : Ident} {rest : List Ident} {bound : Nat} {all : List Ident}
    (hback : startsWith back (.sign "::") = false)
    (hreading : reading.rest = .ident ident :: (restTokens rest ++ back))
    (h : segmentsParser (bound + 1) scope reading = .ok (all, done)) :
    (all = [] ∧ reading = done ∧ segmentStarts.any reading.rest.startsWith = false) ∨
      all = ident :: rest := by
  -- The induction is on the words that are left to be read; each takes one off the bound.
  induction rest generalizing ident bound reading all with
  | nil =>
    rcases segments_cases h with hnone | ⟨word, behind, -, hword, hmore⟩
    · exact .inl hnone
    · rw [hreading] at hword
      obtain ⟨rfl, rfl⟩ : ident = word ∧ back = behind := by
        simpa [restTokens] using Option.some.inj hword
      rcases hmore with ⟨-, rfl⟩ | ⟨spans, _, _, _, hsign, -⟩
      · exact .inr rfl
      · have hseen : startsWith back (.sign "::") = true := by
          simpa [startsWith, Terminal.starts] using congrArg Option.isSome hsign
        simp [hseen] at hback
  | cons next rest ih =>
    rcases segments_cases h with hnone | ⟨word, behind, -, hword, hmore⟩
    · exact .inl hnone
    · rw [hreading, restTokens, List.append_assoc] at hword
      obtain ⟨rfl, rfl⟩ : ident = word ∧ colons .nowhere ++
          .ident next :: (restTokens rest ++ back) = behind := by
        simpa using Option.some.inj hword
      rcases hmore with
        ⟨hseen, -⟩ | ⟨spans, behind, more, between, hsign, hbetween, hrest, hne, rfl⟩
      · simp [startsWith_colons] at hseen
      · rw [sign?_colons] at hsign
        obtain ⟨-, rfl⟩ := Prod.mk.inj (Option.some.inj hsign)
        cases bound with
        | zero => exact absurd (pure_eq_ok_iff.mp hrest).1.symm hne
        | succ bound =>
          rcases ih hbetween hrest with ⟨rfl, -⟩ | rfl
          · exact absurd rfl hne
          · exact .inr rfl

/-- Behind the `::` in front of a path, all its words are segments. -/
theorem last_of_segments {path read : Path} (hback : startsWith back (.sign "::") = false)
    (hreading : reading.rest = .ident path.first :: (restTokens path.rest ++ back))
    (leading : Option Span) {build : List Ident → Parser Path}
    (hsome : build path.segments = pure ⟨leading, path.first, path.rest⟩)
    (hnone : build [] = name >>= fun ident => pure ⟨leading, ident, []⟩)
    (h : (do build (← segmentsParser (TokenTree.sizeAll (← remaining) + 1))) scope reading =
      .ok (read, done)) : read.last = path.last := by
  rw [remaining_bind] at h
  obtain ⟨all, between, hall, hlast⟩ := bind_eq_ok_iff.mp h
  rcases segments_of_tokens hback hreading hall with ⟨rfl, rfl, hstart⟩ | rfl
  · -- A name would have been a segment.
    rw [hnone] at hlast
    obtain ⟨ident, last, hrun, -⟩ := bind_eq_ok_iff.mp hlast
    obtain ⟨hword, hname⟩ := word?_of_name hrun
    simp [segmentStarts, startsWith, Terminal.starts, hword, hname] at hstart
  · rw [← segments, hsome] at hlast
    obtain ⟨rfl, -⟩ := pure_eq_ok_iff.mp hlast
    rfl

/-- A path that is read from the tokens of a path ends in the same word. -/
theorem last_of_words {path read : Path} (hback : startsWith back (.sign "::") = false)
    (hreading : reading.rest = path.tokens ++ back)
    (h : parser scope reading = .ok (read, done)) : read.last = path.last := by
  unfold parser at h
  obtain ⟨seen, between, hsees, h⟩ := bind_eq_ok_iff.mp h
  obtain ⟨rfl, rfl⟩ : reading.rest.startsWith (.sign "::") = seen ∧ reading = between :=
    Prod.mk.inj (Except.ok.inj hsees)
  rw [tokens] at hreading
  cases hleading : path.leading with
  | none =>
    have hfirst : reading.rest = .ident path.first :: (restTokens path.rest ++ back) := by
      simpa [hleading] using hreading
    have hseen : reading.rest.startsWith (.sign "::") = false := hfirst ▸ rfl
    rw [hseen] at h
    obtain ⟨leading, second, hpure, hrest⟩ := bind_eq_ok_iff.mp h
    obtain ⟨rfl, rfl⟩ := pure_eq_ok_iff.mp hpure
    exact last_of_segments hback hfirst none rfl rfl hrest
  | some span =>
    have hfirst : reading.rest =
        colons span ++ .ident path.first :: (restTokens path.rest ++ back) := by
      simpa [hleading] using hreading
    have hseen : reading.rest.startsWith (.sign "::") = true := hfirst ▸ startsWith_colons _ _
    rw [hseen] at h
    obtain ⟨other, second, hsign, hrest⟩ := bind_eq_ok_iff.mp h
    obtain ⟨spans, hspans⟩ := sign?_of_sign hsign
    obtain ⟨leading, third, hpure, hrest⟩ := bind_eq_ok_iff.mp hrest
    obtain ⟨rfl, rfl⟩ := pure_eq_ok_iff.mp hpure
    refine last_of_segments hback ?_ (some other) rfl rfl hrest
    have hcolons := hspans.symm.trans (hfirst ▸ sign?_colons _ _)
    exact (Prod.mk.inj (Option.some.inj hcolons)).2

end Path

namespace Attribute

/-- The path of an attribute is read again with the same last word. -/
theorem last_of_pathParser {path read : Path}
    (hpath : path.first.text = "unsafe" → path.rest = [])
    (hback : startsWith back (.sign "::") = false) (hreading : reading.rest = path.tokens ++ back)
    (h : pathParser scope reading = .ok (read, done)) : read.last = path.last := by
  unfold pathParser at h
  rw [sees_bind] at h
  cases hseen : reading.rest.startsWith (.word "unsafe") with
  | false => exact Path.last_of_words hback hreading (by simpa [hseen] using h)
  | true =>
    simp only [hseen, if_true] at h
    obtain ⟨ident, between, hrun, hlast⟩ := bind_eq_ok_iff.mp h
    obtain ⟨rfl, -⟩ := pure_eq_ok_iff.mp hlast
    have hword := word?_of_anyWord hrun
    have hmark : ident.text = "unsafe" := by
      simpa [startsWith, Terminal.starts, hword] using hseen
    rw [hreading, Path.tokens] at hword
    cases hleading : path.leading with
    | none =>
      rw [hleading] at hword
      obtain ⟨rfl, -⟩ := Prod.mk.inj (Option.some.inj hword)
      simp [Path.last, hpath hmark]
    | some span =>
      rw [hleading] at hword
      cases hword

variable {attr : Attribute}

/-- Behind the path of an attribute no path goes on. -/
theorem Parsed.startsWith_body (h : attr.Parsed) :
    startsWith attr.body.tokens (.sign "::") = false := by
  cases hbody : attr.body with
  | bare => rfl
  | list delimiter content span =>
    cases delimiter with
    | invisible => exact absurd hbody (h.body content span)
    | _ => rfl
  | assigned equals value => rfl

/-- An attribute is read again with the same last word in its path. -/
theorem last_of_outerParser {rules : Rules} {read : Attribute} (hattr : attr.Parsed)
    (hreading : reading.rest = attr.tokens ++ back)
    (h : outerParser rules scope reading = .ok (read, done)) :
    read.path.last = attr.path.last ∧ done.rest = back := by
  obtain ⟨pound, first, hsign, h⟩ := bind_eq_ok_iff.mp h
  obtain ⟨⟨⟨path, body⟩, span⟩, second, hgroup, hlast⟩ := bind_eq_ok_iff.mp h
  obtain ⟨rfl, rfl⟩ := pure_eq_ok_iff.mp hlast
  have hfirst : first.rest = .group .bracket attr.content attr.brackets :: back := by
    obtain ⟨spans, hspans⟩ := sign?_of_sign hsign
    have hpound : reading.rest.sign? ['#'] =
        some ([attr.pound], .group .bracket attr.content attr.brackets :: back) := hreading ▸ rfl
    exact (Prod.mk.inj (Option.some.inj (hspans.symm.trans hpound))).2
  obtain ⟨inner, last, hfound, hcontent⟩ := delimited_eq_ok hgroup
  have hseen : first.rest.group? .bracket = some (attr.content, attr.brackets, back) :=
    hfirst ▸ rfl
  obtain ⟨rfl, -, hrest⟩ : inner = attr.content ∧ _ ∧ second.rest = back := by
    simpa using hfound.symm.trans hseen
  obtain ⟨word, third, hpath, hbody⟩ := bind_eq_ok_iff.mp hcontent
  obtain ⟨_, fourth, -, hread⟩ := bind_eq_ok_iff.mp hbody
  obtain ⟨rfl, -⟩ : word = path ∧ _ := Prod.mk.inj (pure_eq_ok_iff.mp hread).1
  exact ⟨last_of_pathParser hattr.path hattr.startsWith_body rfl hpath, hrest⟩

/-- All of some attributes are read again if the bound suffices. -/
theorem last_of_outerAll {rules : Rules} {attributes all : List Attribute}
    (hattributes : ∀ attr ∈ attributes, attr.Parsed) (hlimit : attributes.length ≤ rules.limit)
    (hback : startsWith back (.sign "#") = false)
    (hreading : reading.rest = attributes.flatMap tokens ++ back)
    (h : outerAll rules scope reading = .ok (all, done)) :
    all.map (·.path.last) = attributes.map (·.path.last) ∧ done.rest = back := by
  unfold outerAll at h
  generalize rules.limit = bound at h hlimit
  induction attributes generalizing bound reading all with
  | nil =>
    have hrest : reading.rest = back := hreading
    obtain ⟨rfl, rfl⟩ := whileSeen_stops (hrest ▸ hback) h
    exact ⟨rfl, hrest⟩
  | cons attr rest ih =>
    obtain ⟨hattr, hrest⟩ := List.forall_mem_cons.mp hattributes
    cases bound with
    | zero => simp at hlimit
    | succ bound =>
      have hfront : reading.rest = attr.tokens ++ (rest.flatMap tokens ++ back) := by
        simpa using hreading
      obtain ⟨read, between, others, hread, hothers, rfl⟩ := whileSeen_goes (hfront ▸ rfl) h
      obtain ⟨hlast, hbehind⟩ := last_of_outerParser hattr hfront hread
      obtain ⟨hsame, hdone⟩ := ih hrest hbehind bound hothers (Nat.le_of_succ_le_succ hlimit)
      exact ⟨by simp [hlast, hsame], hdone⟩

end Attribute

end ValuedEnum
