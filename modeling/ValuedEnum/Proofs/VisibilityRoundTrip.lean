import ValuedEnum.Proofs.Positions.Grammar
import ValuedEnum.Proofs.Positions.Wrapper
import ValuedEnum.Proofs.Rereading.Path
import ValuedEnum.Proofs.Rereading.Visibility
import ValuedEnum.Proofs.Spelling.Source

/-!
# Visibilities and their texts

A visibility that was read is read again from its text, and nothing but positions is lost on the
way. So two visibilities have the same text only if they are the same up to positions.
-/

namespace ValuedEnum

open ValuedEnum.Parser TokenStream

namespace Parser

variable {α : Type} {scope : Scope} {reading done : Reading}

/-- What comes next decides whether a token is taken. -/
theorem accept_eq_ok {terminal : Terminal} {taken : Bool}
    (h : accept terminal scope reading = .ok (taken, done)) :
    taken = reading.rest.startsWith terminal ∧ (taken = false → reading = done) := by
  unfold accept at h
  rw [sees_bind] at h
  cases hseen : reading.rest.startsWith terminal with
  | false =>
    rw [hseen] at h
    obtain ⟨rfl, rfl⟩ := pure_eq_ok_iff.mp h
    exact ⟨rfl, fun _ => rfl⟩
  | true =>
    rw [hseen] at h
    obtain ⟨_, between, -, h⟩ := bind_eq_ok_iff.mp h
    obtain ⟨rfl, rfl⟩ := pure_eq_ok_iff.mp h
    exact ⟨rfl, by simp⟩

/-- A group is read by what reads its contents. -/
theorem delimited_of_content {content : Parser α} {delimiter : Delimiter}
    {inner rest : TokenStream} {span : Span}
    (hgroup : reading.rest.group? delimiter = some (inner, span, rest)) {result : α} {last : Reading}
    (hcontent : content ⟨span.last, delimiter⟩ ⟨inner, [], reading.stray⟩ = .ok (result, last)) :
    delimited delimiter content scope reading =
      .ok ((result, span), ⟨rest, .group delimiter last.printed.reverse span :: reading.printed,
        last.stray.or (strayAmong delimiter last.rest)⟩) := by
  unfold delimited
  rw [hgroup]
  simp only [hcontent]
  cases last.stray <;> rfl

/-- Looking ahead finds what a parser would read. -/
theorem ahead?_of_eq_ok {parser : Parser α} {result : α}
    (h : ∃ done, parser scope reading = .ok (result, done)) :
    ahead? parser scope reading = .ok (some result, reading) := by
  obtain ⟨done, hdone⟩ := h
  simp only [ahead?, hdone]

end Parser

namespace Visibility

/-- A visibility that is read from words of a text, wherever it stands in it. -/
def Obtained (visibility : Visibility) : Prop :=
  ∃ scope reading done, reading.rest.Worded ∧ parser scope reading = .ok (visibility, done)

/-- The visibility that a whole text is. -/
def ofText (text : String) : Except Problem Visibility := do
  Grammar.visibility .whole (← TokenStream.ofText text)

/-! ### What is obtained -/

/-- The words that may stand between parentheses on their own. -/
def shortcuts : List String := ["crate", "self", "super"]

/-- The visibilities that a reader returns: the word `in` stands in front of every path but those of
a single shortcut, and it may stand in front of these. -/
inductive WellFormed : Visibility → Prop
  | inherited : WellFormed .inherited
  | anywhere : WellFormed .anywhere
  | shortcut {first : Ident} (hword : first.IsWord) (h : first.text ∈ shortcuts) :
    WellFormed (.inside false ⟨none, first, []⟩)
  | path {path : Path} (h : path.Readable) : WellFormed (.inside true path)

section

variable {scope : Scope} {reading done : Reading}

/-- A word that is not `in` stands on its own only if it is a shortcut. -/
theorem shortcut_of_fits {ident : Ident} {rest : TokenStream}
    (hword : reading.rest.word? = some (ident, rest))
    (hmarked : reading.rest.startsWith (.word "in") = false)
    (h : (do
      if ← seesAny [.word "crate", .word "self", .word "super"] then
        let _ ← anyWord
        return ← atEnd
      else sees (.word "in")) scope reading = .ok (true, done)) : ident.text ∈ shortcuts := by
  obtain ⟨seen, first, hseen, h⟩ := bind_eq_ok_iff.mp h
  obtain ⟨hany, rfl⟩ := Prod.mk.inj (Except.ok.inj hseen)
  cases seen with
  | true => simpa [startsWith, Terminal.starts, hword, shortcuts] using hany
  | false =>
    obtain ⟨hsees, -⟩ := Prod.mk.inj (Except.ok.inj h)
    exact absurd (hmarked.symm.trans hsees) (by decide)

/-- Between the parentheses, what is not marked by `in` is a shortcut. -/
theorem wellFormed_of_content {visibility : Visibility} (hreading : reading.rest.Worded)
    (hshortcut : ∀ ident rest, reading.rest.word? = some (ident, rest) →
      reading.rest.startsWith (.word "in") = false → ident.text ∈ shortcuts)
    (h : (do
      let marked ← accept (.word "in")
      let path ← if marked then Path.parser else pure ⟨none, ← anyWord, []⟩
      return inside marked path) scope reading = .ok (visibility, done)) :
    visibility.WellFormed := by
  obtain ⟨marked, first, haccept, h⟩ := bind_eq_ok_iff.mp h
  obtain ⟨hmarked, hfirst⟩ := accept_eq_ok haccept
  cases marked with
  | true =>
    obtain ⟨path, behind, hpath, h⟩ := bind_eq_ok_iff.mp h
    obtain ⟨rfl, -⟩ := pure_eq_ok_iff.mp h
    have hbehind := (Quiet.passes trivial haccept).passes.worded hreading
    exact .path (Path.readable_of_read hbehind hpath)
  | false =>
    obtain rfl := hfirst rfl
    obtain ⟨ident, behind, hident, h⟩ := bind_eq_ok_iff.mp h
    obtain ⟨path, _, hpath, h⟩ := bind_eq_ok_iff.mp h
    obtain ⟨rfl, -⟩ := pure_eq_ok_iff.mp hpath
    obtain ⟨rfl, -⟩ := pure_eq_ok_iff.mp h
    have hword := word?_of_anyWord hident
    exact .shortcut (hreading.of_word? hword).1 (hshortcut _ _ hword hmarked.symm)

/-- A restriction that is read from worded tokens is well-formed. -/
theorem wellFormed_of_restriction? {found : Option Visibility} (hreading : reading.rest.Worded)
    (h : restriction? scope reading = .ok (found, done)) :
    ∀ visibility ∈ found, visibility.WellFormed := by
  unfold restriction? at h
  rw [sees_bind] at h
  split at h
  · obtain ⟨rfl, -⟩ := pure_eq_ok_iff.mp h
    simp
  obtain ⟨tried, between, hahead, h⟩ := bind_eq_ok_iff.mp h
  obtain ⟨rfl, hseen⟩ := eq_of_ahead? hahead
  split at h
  · obtain ⟨last, hlook⟩ := hseen _ rfl
    obtain ⟨inner, behind, hgroup, hfits⟩ := delimited_eq_ok hlook
    obtain ⟨⟨visibility, span⟩, _, hread, h⟩ := bind_eq_ok_iff.mp h
    obtain ⟨rfl, -⟩ := pure_eq_ok_iff.mp h
    obtain ⟨inner', behind', hgroup', hcontent⟩ := delimited_eq_ok hread
    -- The reader looks at the group before it takes the same one.
    obtain rfl : inner = inner' := by simpa [hgroup] using congrArg (Option.map Prod.fst) hgroup'
    have hinner : inner.Worded := (TokenTree.hereditary_worded.of_group? hreading hgroup).1
    have hvisibility : visibility.WellFormed :=
      wellFormed_of_content hinner (fun _ _ hword hmarked => shortcut_of_fits hword hmarked hfits)
        hcontent
    simpa using hvisibility
  · obtain ⟨rfl, -⟩ := pure_eq_ok_iff.mp h
    simp

/-- Only such visibilities are read. -/
theorem wellFormed_of_read {visibility : Visibility} (hreading : reading.rest.Worded)
    (h : parser scope reading = .ok (visibility, done)) : visibility.WellFormed := by
  unfold parser at h
  rw [remaining_bind] at h
  generalize reading.rest = tokens at h
  split at h
  · obtain ⟨_, between, -, h⟩ := bind_eq_ok_iff.mp h
    obtain ⟨rfl, -⟩ := pure_eq_ok_iff.mp h
    exact .inherited
  · obtain ⟨taken, between, haccept, h⟩ := bind_eq_ok_iff.mp h
    cases taken with
    | false =>
      obtain ⟨rfl, -⟩ := pure_eq_ok_iff.mp h
      exact .inherited
    | true =>
      have hbetween := (Quiet.passes trivial haccept).passes.worded hreading
      obtain ⟨found, last, hfound, h⟩ := bind_eq_ok_iff.mp h
      obtain ⟨rfl, -⟩ := pure_eq_ok_iff.mp h
      cases found with
      | none => exact .anywhere
      | some visibility => exact wellFormed_of_restriction? hbetween hfound visibility rfl

/-! ### Reading the tokens again -/

/-- The path behind `in` is read up to its end. -/
theorem restriction?_of_path {path : Path} (hpath : path.Readable) (hstray : reading.stray = none)
    (hreading : reading.rest = parenthesized (TokenStream.word "in" ++ path.tokens)) :
    ∃ again done, restriction? scope reading = .ok (some (inside true again), done) ∧
      Alike again path ∧ done.rest = [] ∧ done.stray = none := by
  let behind : Reading := ⟨path.tokens, [.ident ⟨"in", .nowhere⟩], reading.stray⟩
  have hbehind : behind.rest = path.tokens := rfl
  have hsegments (ident : Ident) (hident : ident ∈ path.segments) : ident.isSegment = true :=
    (hpath ident hident).2
  obtain ⟨again, last, hread, halike, hrest, hend⟩ : ∃ again last,
      Path.parser ⟨Span.nowhere.last, .parenthesis⟩ behind = .ok (again, last) ∧
        Alike again path ∧ last.rest = [] ∧ last.stray = reading.stray :=
    Path.parser_tokens hsegments hbehind
  have hgroup : reading.rest.group? .parenthesis =
      some (TokenStream.word "in" ++ path.tokens, .nowhere, []) := hreading ▸ rfl
  have hsees : reading.rest.startsWith (.delimited .parenthesis) = true := by
    simp only [startsWith, Terminal.starts, hgroup, Option.isSome_some]
  have hleft : last.stray.or (strayAmong .parenthesis last.rest) = none := by
    rw [hend, hstray, hrest]
    rfl
  -- The reader looks ahead into the parentheses first, and then reads them from the start.
  refine ⟨again, ⟨[], .group .parenthesis last.printed.reverse .nowhere :: reading.printed,
    last.stray.or (strayAmong .parenthesis last.rest)⟩, ?_, halike, rfl, hleft⟩
  unfold restriction?
  rw [sees_bind, hsees]
  refine bind_eq_ok_iff.mpr ⟨some (true, .nowhere), reading, ahead?_of_eq_ok ?_, ?_⟩
  · exact ⟨_, delimited_of_content hgroup (bind_eq_ok_iff.mpr ⟨false, _, rfl, rfl⟩)⟩
  · refine bind_eq_ok_iff.mpr ⟨_, _, delimited_of_content hgroup ?_, rfl⟩
    refine bind_eq_ok_iff.mpr ⟨true, behind, rfl, ?_⟩
    exact bind_eq_ok_iff.mpr ⟨again, last, hread, rfl⟩

/-- A well-formed visibility is read again from its tokens. -/
theorem visibility_tokens {visibility : Visibility} (h : visibility.WellFormed) :
    ∃ again, Grammar.visibility .whole visibility.tokens = .ok again ∧ Alike again visibility := by
  cases h with
  | inherited => exact ⟨.inherited, rfl, inferInstance⟩
  | anywhere => exact ⟨.anywhere, rfl, inferInstance⟩
  | shortcut hword h =>
    rename_i first
    obtain ⟨text, span⟩ := first
    refine ⟨.inside false ⟨none, ⟨text, span⟩, []⟩, ?_, inferInstance⟩
    simp only [shortcuts, List.mem_cons, List.not_mem_nil, or_false] at h
    rcases h with rfl | rfl | rfl <;> rfl
  | path hpath =>
    rename_i path
    -- A path stands behind the word `in`, whether it was written there or not.
    let behind : Reading := ⟨parenthesized (TokenStream.word "in" ++ path.tokens),
      [.ident ⟨"pub", .nowhere⟩], none⟩
    have hbehind : behind.rest = parenthesized (TokenStream.word "in" ++ path.tokens) := rfl
    obtain ⟨again, done, hread, halike, hrest, hstray⟩ : ∃ again done,
        restriction? .whole behind = .ok (some (inside true again), done) ∧
          Alike again path ∧ done.rest = [] ∧ done.stray = none :=
      restriction?_of_path hpath rfl hbehind
    have hparser : parser .whole ⟨(inside true path).tokens, [], none⟩ =
        .ok (inside true again, done) := by
      refine bind_eq_ok_iff.mpr ⟨_, _, rfl, ?_⟩
      refine bind_eq_ok_iff.mpr ⟨true, behind, rfl, ?_⟩
      exact bind_eq_ok_iff.mpr ⟨_, done, hread, rfl⟩
    refine ⟨.inside true again, run_eq_ok_iff.mpr ⟨done, hparser, hstray, ?_⟩, inferInstance⟩
    rw [hrest]
    rfl

end

/-- The path of a well-formed restriction is made of words. -/
theorem WellFormed.isWord {visibility : Visibility} (h : visibility.WellFormed) (marked : Bool)
    (path : Path) (hinside : visibility = .inside marked path) :
    ∀ ident ∈ path.segments, ident.IsWord := by
  cases h with
  | inherited => cases hinside
  | anywhere => cases hinside
  | shortcut hword =>
    obtain ⟨-, rfl⟩ := inside.inj hinside
    simpa [Path.segments] using hword
  | path hpath =>
    obtain ⟨-, rfl⟩ := inside.inj hinside
    exact fun ident hident => (hpath ident hident).1

/-- The text of a visibility is read as this visibility. -/
theorem WellFormed.ofText_text {visibility : Visibility} (h : visibility.WellFormed) :
    ∃ again, ofText visibility.text = .ok again ∧ Alike again visibility := by
  obtain ⟨tokens, htokens, halike⟩ := Visibility.ofText_text h.isWord
  obtain ⟨read, hread, hsame⟩ := visibility_tokens h
  -- The lexer puts the tokens at other positions, of which no rule of the grammar takes notice.
  have hblind : Alike (Grammar.visibility .whole tokens)
      (Grammar.visibility .whole visibility.tokens) :=
    Blind.run inferInstance inferInstance halike
  rw [hread] at hblind
  obtain ⟨again, other, hagain, hother, hlike⟩ | ⟨_, _, -, hfault, -⟩ := hblind.results
  · obtain rfl : read = other := Except.ok.inj hother
    refine ⟨again, ?_, ⟨hlike.unplaced_eq.trans hsame.unplaced_eq⟩⟩
    rw [ofText, htokens]
    exact hagain
  · cases hfault

/-- A visibility has the same text wherever it stands. -/
theorem text_eq_of_alike {visibility other : Visibility} (h : Alike visibility other) :
    visibility.text = other.text := by
  have heq := h.unplaced_eq
  cases visibility with
  | inherited => cases other <;> simp [unplaced, text] at heq ⊢
  | anywhere => cases other <;> simp [unplaced, text] at heq ⊢
  | inside marked path =>
    cases other with
    | inside also another =>
      obtain ⟨rfl, hpath⟩ := inside.inj heq
      have hpath : Alike path another := ⟨hpath⟩
      have htokens : Alike path.tokens another.tokens := inferInstance
      have hchars := htokens.congr TokenTree.charsAll TokenTree.charsAll_unplaced
      cases marked <;> simp only [text, pathText, hchars]
    | _ => simp [unplaced] at heq

/-! ### Where visibilities are read -/

/-- What a reader returns is well-formed. -/
theorem Obtained.wellFormed {visibility : Visibility} (h : visibility.Obtained) :
    visibility.WellFormed := by
  obtain ⟨scope, reading, done, hreading, hrun⟩ := h
  exact wellFormed_of_read hreading hrun

/-- A visibility that is a whole text is obtained. -/
theorem obtained_of_ofText {text : String} {visibility : Visibility}
    (h : ofText text = .ok visibility) : visibility.Obtained := by
  unfold ofText at h
  cases htokens : TokenStream.ofText text with
  | error problem =>
    rw [htokens] at h
    cases h
  | ok tokens =>
    rw [htokens] at h
    obtain ⟨done, hrun, -⟩ := run_eq_ok_iff.mp h
    have hworded : tokens.Worded := worded_ofChars htokens
    exact ⟨.whole, ⟨tokens, [], none⟩, done, hworded, hrun⟩

/-- The reader of visibilities returns what is read from words of a text. -/
theorem takes_obtained : parser.Takes Obtained := fun scope reading _ done hreading hrun =>
  ⟨⟨scope, reading, done, hreading, hrun⟩, (Quiet.passes trivial hrun).passes.worded hreading⟩

/-- An enumeration that is read from worded tokens has such a visibility. -/
theorem takes_enumeration (rules : Rules) [rules.Keep] (attributes : List Attribute) :
    (ItemRule.enumeration rules attributes).Takes fun item => item.visibility.Obtained := by
  refine takes_obtained.bind fun visibility hvisibility => ?_
  refine (takes_word "enum").bind fun _ _ => Quiet.takes _ fun ident => ?_
  refine Quiet.takes _ fun generics => Quiet.takes _ fun constraints => ?_
  exact Quiet.takes _ fun body => takes_pure hvisibility

/-- The visibilities of all enumerations in a file are obtained. -/
theorem obtained_of_file {text : String} {file : SourceFile}
    (h : SourceFile.ofText text = .ok file) :
    ∀ entry ∈ Item.declaredAll [] file, entry.item.visibility.Obtained := by
  obtain ⟨tokens, htokens, hfile⟩ := SourceFile.exists_tokens_of_ofText h
  exact Grammar.declares_of_file (fun rules _ => takes_enumeration rules) (worded_ofChars htokens)
    hfile

/-- So is the visibility of an enumeration that is expanded on its own. -/
theorem obtained_of_enumeration {tokens : TokenStream} (htokens : tokens.Worded) {scope : Scope}
    {item : EnumItem} (h : Grammar.enumeration scope tokens = .ok item) :
    item.visibility.Obtained := by
  have hkeep : (Grammar.rulesFor tokens).Keep := inferInstanceAs (Grammar.rules _ _).Keep
  have htakes : Takes (do
      ItemRule.enumeration (Grammar.rulesFor tokens)
        (← Attribute.outerAll (Grammar.rulesFor tokens))) fun item => item.visibility.Obtained :=
    Quiet.takes _ fun attributes => takes_enumeration _ attributes
  exact htakes.of_run htokens h

/-- A visibility that was read is read again from its text, and only its positions may differ. So
two of them have the same text exactly if nothing else tells them apart. -/
theorem text_round_trip {visibility : Visibility} (h : visibility.Obtained) :
    (∃ again, ofText visibility.text = .ok again ∧ Alike again visibility) ∧
      ∀ other : Visibility, other.Obtained →
        (visibility.text = other.text ↔ Alike visibility other) := by
  refine ⟨h.wellFormed.ofText_text, fun other hother => ⟨fun htext => ?_, text_eq_of_alike⟩⟩
  obtain ⟨again, hagain, halike⟩ := h.wellFormed.ofText_text
  obtain ⟨also, halso, hlike⟩ := hother.wellFormed.ofText_text
  rw [htext, halso] at hagain
  obtain rfl : also = again := Except.ok.inj hagain
  exact ⟨halike.unplaced_eq.symm.trans hlike.unplaced_eq⟩

/-- The path of this visibility starts with colons and a raw word. -/
theorem text_spaced : ∃ visibility ∈ (ofText "pub ( in :: r#mod :: super :: b )").toOption,
    visibility.text = "pub(in ::r#mod::super::b)" := by
  decide +kernel

/-- Without the blanks it is read again. -/
theorem ofText_text_spaced : ∃ visibility again,
    ofText "pub ( in :: r#mod :: super :: b )" = .ok visibility ∧
      ofText "pub(in ::r#mod::super::b)" = .ok again ∧ Alike again visibility := by
  obtain ⟨visibility, hread, htext⟩ := text_spaced
  have hread := toOption_eq_some_iff.mp hread
  obtain ⟨⟨again, hagain, halike⟩, -⟩ := text_round_trip (obtained_of_ofText hread)
  exact ⟨visibility, again, hread, htext ▸ hagain, halike⟩

end Visibility

end ValuedEnum
