import ValuedEnum.Grammar.Generics
import ValuedEnum.Proofs.Positions.Tokens
import ValuedEnum.Proofs.Scope

/-!
# Parsers and positions

A parser carries positions along and never decides by them: at alike tokens it comes to alike
results. `Parser.Blind` says so of two parsers, which are two runs of one rule on alike arguments.
-/

namespace ValuedEnum

instance : Located Problem := ⟨fun problem => ⟨problem.cause, .nowhere⟩⟩

/-- Alike problems have one cause. -/
theorem Alike.cause_eq {first second : Problem} (h : Alike first second) :
    first.cause = second.cause :=
  h.congr Problem.cause fun _ => rfl

instance : Located Scope := ⟨fun scope => ⟨.nowhere, scope.delimiter⟩⟩

instance : Located Reading := ⟨fun reading =>
  ⟨unplaced reading.rest, unplaced reading.printed, unplaced reading.stray⟩⟩

instance (delimiter : Delimiter) (first second : Span) :
    Alike (⟨first, delimiter⟩ : Scope) ⟨second, delimiter⟩ := ⟨rfl⟩

section

variable {reading another : Reading} (h : Alike reading another)
include h

/-- Alike readings have alike tokens left. -/
theorem Alike.rest : Alike reading.rest another.rest :=
  h.map Reading.rest fun _ => rfl

/-- Alike readings have alike tokens printed. -/
theorem Alike.printed : Alike reading.printed another.printed :=
  h.map Reading.printed fun _ => rfl

/-- Alike readings have alike tokens left over in a group, or none. -/
theorem Alike.stray : Alike reading.stray another.stray :=
  h.map Reading.stray fun _ => rfl

end

namespace Parser

variable {α β : Type} [Located α] [Located β]

/-- Two parsers that come to alike results. -/
class Blind (first second : Parser α) : Prop where
  alike : ∀ {scope other : Scope} {reading another : Reading}, Alike scope other →
    Alike reading another → Alike (first scope reading) (second other another)

/-- Readings with alike parts are alike. -/
theorem alike_reading {rest others : TokenStream} {printed also : TokenStream}
    {stray other : Option Problem} (hrest : Alike rest others) (hprinted : Alike printed also)
    (hstray : Alike stray other) :
    Alike (⟨rest, printed, stray⟩ : Reading) ⟨others, also, other⟩ := by
  refine ⟨?_⟩
  change (⟨unplaced rest, unplaced printed, unplaced stray⟩ : Reading) =
    ⟨unplaced others, unplaced also, unplaced other⟩
  rw [hrest.unplaced_eq, hprinted.unplaced_eq, hstray.unplaced_eq]

/-- Alike results with alike readings are alike. -/
theorem alike_ok {result other : α} {reading another : Reading} (hresult : Alike result other)
    (hreading : Alike reading another) :
    Alike (.ok (result, reading) : Except Problem (α × Reading)) (.ok (other, another)) :=
  ⟨by simp [hresult.unplaced_eq, hreading.unplaced_eq]⟩

/-! ### Rules -/

instance (result other : α) [h : Alike result other] : Blind (pure result) (pure other) :=
  ⟨fun _ hreading => alike_ok h hreading⟩

/-- Two parsers in a row are blind if the second one is on alike results of the first one. -/
theorem Blind.bind {first second : Parser α} {next after : α → Parser β}
    (h : Blind first second)
    (hnext : ∀ result other, Alike result other → Blind (next result) (after other)) :
    Blind (first >>= next) (second >>= after) := by
  refine ⟨fun {scope _ reading another} hscope hreading => ?_⟩
  rw [bind_apply, bind_apply]
  obtain ⟨⟨result, done⟩, ⟨result', done'⟩, hfirst, hsecond, hread⟩ |
    ⟨fault, fault', hfirst, hsecond, hfault⟩ := (h.alike hscope hreading).results
  · rw [hfirst, hsecond]
    exact (hnext result result' hread.fst).alike hscope hread.snd
  · rw [hfirst, hsecond]
    exact ⟨congrArg Except.error hfault.unplaced_eq⟩

instance (first second : Parser α) (next after : α → Parser β) [h : Blind first second]
    [hnext : ∀ twins : Twins α, Blind (next twins.first) (after twins.second)] :
    Blind (first >>= next) (second >>= after) :=
  h.bind fun result other hresult => hnext ⟨result, other, hresult⟩

-- What is read as a pair is taken apart at once.
instance {γ : Type} [Located γ] (first second : Parser (α × γ)) (next after : α × γ → Parser β)
    [h : Blind first second] [hnext : ∀ (left : Twins α) (right : Twins γ),
      Blind (next (left.first, right.first)) (after (left.second, right.second))] :
    Blind (first >>= next) (second >>= after) :=
  h.bind fun result other hresult =>
    hnext ⟨result.1, other.1, hresult.fst⟩ ⟨result.2, other.2, hresult.snd⟩

instance (priority := 1100) {γ δ : Type} [Located γ] [Located δ]
    (first second : Parser ((α × γ) × δ)) (next after : (α × γ) × δ → Parser β)
    [h : Blind first second] [hnext : ∀ (left : Twins α) (middle : Twins γ) (right : Twins δ),
      Blind (next ((left.first, middle.first), right.first))
        (after ((left.second, middle.second), right.second))] :
    Blind (first >>= next) (second >>= after) :=
  h.bind fun result other hresult => hnext ⟨result.1.1, other.1.1, hresult.fst.fst⟩
    ⟨result.1.2, other.1.2, hresult.fst.snd⟩ ⟨result.2, other.2, hresult.snd⟩

-- What holds no positions is the same on both sides.
instance (priority := 1200) {γ : Type} [Located γ] [Unlocated α] (first second : Parser (α × γ))
    (next after : α × γ → Parser β) [h : Blind first second] [hnext : ∀ (left : α) (right : Twins γ),
      Blind (next (left, right.first)) (after (left, right.second))] :
    Blind (first >>= next) (second >>= after) :=
  h.bind fun result other hresult => by
    have hright := hnext result.1 ⟨result.2, other.2, hresult.snd⟩
    rw [show other = (result.1, other.2) from Prod.ext hresult.fst.eq.symm rfl]
    exact hright

instance (priority := 1300) {γ δ : Type} [Located γ] [Located δ] [Unlocated α]
    (first second : Parser (α × γ × δ)) (next after : α × γ × δ → Parser β)
    [h : Blind first second] [hnext : ∀ (left : α) (middle : Twins γ) (right : Twins δ),
      Blind (next (left, middle.first, right.first)) (after (left, middle.second, right.second))] :
    Blind (first >>= next) (second >>= after) :=
  h.bind fun result other hresult => by
    have hright := hnext result.1 ⟨result.2.1, other.2.1, hresult.snd.fst⟩
      ⟨result.2.2, other.2.2, hresult.snd.snd⟩
    rw [show other = (result.1, other.2) from Prod.ext hresult.fst.eq.symm rfl]
    exact hright

instance (priority := 1400) [Unlocated α] (first second : Parser α) (next after : α → Parser β)
    [h : Blind first second] [hnext : ∀ result, Blind (next result) (after result)] :
    Blind (first >>= next) (second >>= after) :=
  h.bind fun result _ hresult => hresult.eq ▸ hnext result

-- Alike literals have the same text.
instance (priority := 1100) (first second : Parser Lit) (next after : Lit → Parser β)
    [h : Blind first second] [hnext : ∀ (text : String) (span other : Span),
      Blind (next ⟨text, span⟩) (after ⟨text, other⟩)] :
    Blind (first >>= next) (second >>= after) :=
  h.bind fun result other hresult => by
    have hlit := hnext result.text result.span other.span
    rw [show other = ⟨result.text, other.span⟩ by rw [hresult.lit_text_eq]]
    exact hlit

/-- A choice that is no matter of positions may stand between blind parsers. -/
theorem blind_ite {condition : Prop} [Decidable condition] {first second third fourth : Parser α}
    (h : Blind first second) (hrest : Blind third fourth) :
    Blind (if condition then first else third) (if condition then second else fourth) := by
  split
  · exact h
  · exact hrest

instance (condition : Prop) [Decidable condition] (first second third fourth : Parser α)
    [h : Blind first second] [hrest : Blind third fourth] :
    Blind (if condition then first else third) (if condition then second else fourth) :=
  blind_ite h hrest

instance (seen other : Bool) (first second third fourth : Parser α) [hseen : Alike seen other]
    [h : Blind first second] [hrest : Blind third fourth] :
    Blind (if seen = true then first else third) (if other = true then second else fourth) := by
  rw [hseen.eq]
  exact blind_ite h hrest

/-! ### Looking at tokens -/

/-- A parser that only looks at what comes next. -/
theorem Blind.of_looks {first second : Parser α} {look also : Scope → Reading → α}
    (hfirst : ∀ scope reading, first scope reading = .ok (look scope reading, reading))
    (hsecond : ∀ scope reading, second scope reading = .ok (also scope reading, reading))
    (h : ∀ {scope other reading another}, Alike scope other → Alike reading another →
      Alike (look scope reading) (also other another)) : Blind first second := by
  refine ⟨fun hscope hreading => ?_⟩
  rw [hfirst, hsecond]
  exact alike_ok (h hscope hreading) hreading

instance : Blind remaining remaining :=
  .of_looks (fun _ _ => rfl) (fun _ _ => rfl) fun _ hreading => hreading.rest

/-- What is seen of alike tokens is the same. -/
theorem blind_seen {look also : TokenStream → Bool}
    [h : ∀ twins : Twins TokenStream, Alike (look twins.first) (also twins.second)] :
    Blind (return look (← remaining)) (return also (← remaining)) :=
  inferInstance

instance : Blind atEnd atEnd := blind_seen

instance (terminal : Terminal) : Blind (sees terminal) (sees terminal) :=
  blind_seen

instance (terminals : List Terminal) : Blind (seesAny terminals) (seesAny terminals) :=
  blind_seen

instance (terminal : Terminal) : Blind (seesSecond terminal) (seesSecond terminal) :=
  blind_seen

instance (terminal : Terminal) : Blind (seesThird terminal) (seesThird terminal) :=
  blind_seen

instance : Blind location location := by
  refine ⟨fun {scope _ reading another} hscope hreading => ?_⟩
  obtain ⟨rest, printed, stray⟩ := reading
  obtain ⟨others, also, further⟩ := another
  have hrest : Alike rest others := hreading.rest
  cases rest <;> cases others
  · exact alike_ok inferInstance hreading
  · simpa using hrest.unplaced_eq
  · simpa using hrest.unplaced_eq
  · exact alike_ok inferInstance hreading

/-! ### Faults -/

instance (cause : Cause) (first second : Span) :
    Blind (fail cause first : Parser α) (fail cause second) :=
  ⟨fun _ _ => ⟨rfl⟩⟩

instance (cause : Bool → Cause) : Blind (failHere cause : Parser α) (failHere cause) := by
  unfold failHere
  infer_instance

instance (what : Expectation) : Blind (expected what : Parser α) (expected what) := by
  unfold expected
  infer_instance

instance (text : String) : Blind (remark text : Parser α) (remark text) := by
  unfold remark
  infer_instance

instance (tried : List Terminal) : Blind (expectedAmong tried : Parser α) (expectedAmong tried) := by
  unfold expectedAmong
  refine Blind.bind inferInstance fun tokens others halike => ?_
  simp only [halike.startsWith_eq]
  split
  · infer_instance
  · obtain ⟨tree, rest, other, back, rfl, rfl, _, _⟩ | ⟨rfl, rfl⟩ := halike.lists
    · infer_instance
    · refine Blind.bind (α := Scope) ⟨fun hscope hreading => alike_ok hscope hreading⟩ fun _ _ _ => ?_
      infer_instance

/-! ### Tokens -/

instance (tokens others : TokenStream) [h : Alike tokens others] :
    Blind (print tokens) (print others) := by
  refine ⟨fun _ hreading => alike_ok inferInstance (alike_reading hreading.rest ?_ hreading.stray)⟩
  have hprinted := hreading.printed
  exact ⟨by simp [h.unplaced_eq, hprinted.unplaced_eq]⟩

instance (rest behind tokens others : TokenStream) [hrest : Alike rest behind]
    [h : Alike tokens others] : Blind (advance rest tokens) (advance behind others) := by
  refine ⟨fun _ hreading => alike_ok inferInstance (alike_reading hrest ?_ hreading.stray)⟩
  have hprinted := hreading.printed
  exact ⟨by simp [h.unplaced_eq, hprinted.unplaced_eq]⟩

instance : Blind name name := by
  refine Blind.bind inferInstance fun tokens others halike => ?_
  obtain ⟨⟨ident, rest⟩, ⟨other, back⟩, hword, hother, hread⟩ | ⟨hword, hother⟩ :=
    halike.word?.options
  · have hident : Alike ident other := hread.fst
    have hrest : Alike rest back := hread.snd
    have hcause : (fun _ : Bool => Cause.keyword ident.text) = fun _ => .keyword other.text := by
      rw [hident.text_eq]
    simp only [hword, hother, hcause]
    infer_instance
  · simp only [hword, hother]
    infer_instance

instance : Blind anyWord anyWord := by
  refine Blind.bind inferInstance fun tokens others halike => ?_
  obtain ⟨⟨ident, rest⟩, ⟨other, back⟩, hword, hother, hread⟩ | ⟨hword, hother⟩ :=
    halike.word?.options
  · have hident : Alike ident other := hread.fst
    have hrest : Alike rest back := hread.snd
    simp only [hword, hother]
    infer_instance
  · simp only [hword, hother]
    infer_instance

instance (text : String) : Blind (word text) (word text) := by
  refine Blind.bind inferInstance fun tokens others halike => ?_
  obtain ⟨⟨ident, rest⟩, ⟨other, back⟩, hword, hother, hread⟩ | ⟨hword, hother⟩ :=
    halike.word?.options
  · have hident : Alike ident other := hread.fst
    have hrest : Alike rest back := hread.snd
    simp only [hword, hother, hident.text_eq]
    infer_instance
  · simp only [hword, hother]
    infer_instance

/-- An operator has its signs wherever they stand. -/
theorem alike_spelled (text : List Char) {spans others : List Span}
    (h : spans.length = others.length) : Alike (spelled text spans) (spelled text others) := by
  induction text generalizing spans others with
  | nil => exact inferInstanceAs (Alike [] [])
  | cons c rest ih =>
    cases spans with
    | nil =>
      obtain rfl : others = [] := List.length_eq_zero_iff.mp h.symm
      infer_instance
    | cons span spans =>
      cases others with
      | nil => simp at h
      | cons other others =>
        have hrest := ih (by simpa using h)
        cases rest <;> exact inferInstanceAs (Alike (_ :: _) (_ :: _))

instance (text : String) : Blind (sign text) (sign text) := by
  refine Blind.bind inferInstance fun tokens others halike => ?_
  obtain ⟨⟨spans, rest⟩, ⟨other, back⟩, hsign, hother, hread⟩ | ⟨hsign, hother⟩ :=
    (halike.sign? text.toList).options
  · have hspans : Alike spans other := hread.fst
    have hrest : Alike rest back := hread.snd
    have hspelled := alike_spelled text.toList hspans.length_eq
    simp only [hsign, hother]
    refine Blind.bind inferInstance fun _ _ _ => ?_
    obtain ⟨_, _, _, _, rfl, rfl, _, _⟩ | ⟨rfl, rfl⟩ := hspans.lists
    · simp only [List.head?_cons, List.getLast?_cons]
      infer_instance
    · exact inferInstanceAs (Blind location location)
  · simp only [hsign, hother]
    obtain ⟨_, _, hpunct, hpunct', _⟩ | ⟨hpunct, hpunct'⟩ := halike.punct?.options
    · simp only [hpunct, hpunct']
      infer_instance
    · simp only [hpunct, hpunct']
      infer_instance

instance : Blind lifetime lifetime := by
  refine Blind.bind inferInstance fun tokens others halike => ?_
  obtain ⟨⟨quote, ident, rest⟩, ⟨quote', other, back⟩, hlifetime, hother, hread⟩ |
    ⟨hlifetime, hother⟩ := halike.lifetime?.options
  · have hident : Alike ident other := hread.snd.fst
    have hrest : Alike rest back := hread.snd.snd
    simp only [hlifetime, hother]
    infer_instance
  · simp only [hlifetime, hother]
    infer_instance

instance : Blind literal literal := by
  refine Blind.bind inferInstance fun tokens others halike => ?_
  obtain ⟨⟨lit, rest⟩, ⟨other, back⟩, hlit, hother, hread⟩ | ⟨hlit, hother⟩ :=
    halike.lit?.options
  · have hlit' : Alike lit other := hread.fst
    have hrest : Alike rest back := hread.snd
    simp only [hlit, hother]
    infer_instance
  · obtain ⟨⟨minus, lit, rest⟩, ⟨minus', number, back⟩, hnegative, hother', hread⟩ |
      ⟨hnegative, hother'⟩ := halike.negative?.options
    · have hlit' : Alike lit number := hread.snd.fst
      have hrest : Alike rest back := hread.snd.snd
      have hpair : Alike (⟨"-" ++ lit.text, minus.through lit.span⟩ : Lit)
          ⟨"-" ++ number.text, minus'.through number.span⟩ := ⟨by
        rw [hlit'.lit_text_eq]
        rfl⟩
      simp only [hlit, hother, hnegative, hother', hlit'.lit_text_eq] at hpair ⊢
      infer_instance
    · simp only [hlit, hother, hnegative, hother']
      infer_instance

instance (terminal : Terminal) : Blind (literalOf terminal) (literalOf terminal) := by
  unfold literalOf
  infer_instance

instance : Blind verbatimGroup verbatimGroup := by
  refine Blind.bind inferInstance fun tokens others halike => ?_
  obtain ⟨tree, rest, other, back, rfl, rfl, htree, hrest⟩ | ⟨rfl, rfl⟩ := halike.lists
  · have heq := htree.unplaced_eq
    cases tree <;> cases other <;> simp at heq
    · obtain ⟨rfl, hinner⟩ := heq
      have hinner' : Alike _ _ := ⟨hinner⟩
      infer_instance
    all_goals infer_instance
  · infer_instance

mutual

/-- What is left over in a group is the same without positions. -/
theorem strayIn_unplaced (scope : Delimiter) (tree : TokenTree) :
    strayIn scope (unplaced tree) = unplaced (strayIn scope tree) := by
  cases tree with
  | group delimiter inner span =>
    cases delimiter with
    | invisible =>
      rw [TokenTree.unplaced_group, strayIn, strayIn]
      exact strayAmong_unplaced .invisible inner
    | _ =>
      rw [TokenTree.unplaced_group, strayIn, strayIn]
      · rfl
      · simp
      · simp
  | _ => rfl

/-- What is left over in a group is found at any positions. -/
theorem strayAmong_unplaced (scope : Delimiter) (trees : List TokenTree) :
    strayAmong scope (unplaced trees) = unplaced (strayAmong scope trees) := by
  cases trees with
  | nil => rfl
  | cons tree rest =>
    rw [unplaced_cons, strayAmong, strayAmong, strayIn_unplaced, strayAmong_unplaced]
    cases strayIn scope tree <;> rfl

end

/-- Alike trees have alike tokens left over, or none. -/
theorem alike_strayAmong (scope : Delimiter) {trees others : List TokenTree}
    (h : Alike trees others) : Alike (strayAmong scope trees) (strayAmong scope others) :=
  h.map (strayAmong scope) (strayAmong_unplaced scope)

instance (delimiter : Delimiter) (first second : Parser α) [h : Blind first second] :
    Blind (delimited delimiter first) (delimited delimiter second) := by
  refine ⟨fun {scope other reading another} hscope hreading => ?_⟩
  unfold delimited
  have hrest := hreading.rest
  obtain ⟨⟨inner, span, rest⟩, ⟨inner', span', rest'⟩, hgroup, hother, hread⟩ | ⟨hgroup, hother⟩ :=
    (hrest.group? delimiter).options
  · have hinner : Alike inner inner' := hread.fst
    have hbehind : Alike rest rest' := hread.snd.snd
    simp only [hgroup, hother]
    have hstart : Alike (⟨inner, [], reading.stray⟩ : Reading) ⟨inner', [], another.stray⟩ :=
      alike_reading hinner inferInstance hreading.stray
    have hcontent : Alike (first ⟨span.last, delimiter⟩ ⟨inner, [], reading.stray⟩)
        (second ⟨span'.last, delimiter⟩ ⟨inner', [], another.stray⟩) :=
      h.alike inferInstance hstart
    obtain ⟨⟨result, done⟩, ⟨result', done'⟩, hfirst, hsecond, hresult⟩ |
      ⟨fault, fault', hfirst, hsecond, hfault⟩ := hcontent.results
    · have hdone := hresult.snd
      have hleft := alike_strayAmong delimiter hdone.rest
      have hinside := hdone.printed
      have hbefore := hreading.printed
      have hprinted : Alike (.group delimiter done.printed.reverse span :: reading.printed)
          (.group delimiter done'.printed.reverse span' :: another.printed) :=
        ⟨by simp [hinside.unplaced_eq, hbefore.unplaced_eq]⟩
      simp only [hfirst, hsecond]
      refine alike_ok ?_ (alike_reading hbehind hprinted ?_)
      · have hresult' : Alike result result' := hresult.fst
        infer_instance
      · obtain ⟨problem, problem', hstray, hstray', hproblem⟩ | ⟨hstray, hstray'⟩ :=
          hdone.stray.options
        · rw [hstray, hstray']
          infer_instance
        · rw [hstray, hstray']
          exact hleft
    · rw [hfirst, hsecond]
      exact ⟨congrArg Except.error hfault.unplaced_eq⟩
  · simp only [hgroup, hother]
    have hexpected : Blind (expected (.delimited delimiter) : Parser (α × Span))
        (expected (.delimited delimiter)) := inferInstance
    exact hexpected.alike hscope hreading

instance (terminal : Terminal) : Blind (take terminal) (take terminal) := by
  cases terminal <;> (unfold take; infer_instance)

instance (terminal : Terminal) : Blind (accept terminal) (accept terminal) := by
  unfold accept
  infer_instance

instance (terminal : Terminal) : Blind (skip terminal) (skip terminal) := by
  unfold skip
  infer_instance

/-! ### Composition -/

instance (first second : Parser α) [h : Blind first second] :
    Blind (captured first) (captured second) := by
  refine ⟨fun {scope other reading another} hscope hreading => ?_⟩
  have hstart : Alike (⟨reading.rest, [], reading.stray⟩ : Reading)
      ⟨another.rest, [], another.stray⟩ :=
    alike_reading hreading.rest inferInstance hreading.stray
  unfold captured
  obtain ⟨⟨result, done⟩, ⟨result', done'⟩, hfirst, hsecond, hread⟩ |
    ⟨fault, fault', hfirst, hsecond, hfault⟩ := (h.alike hscope hstart).results
  · have hdone := hread.snd
    have hprinted := hdone.printed
    have hbefore := hreading.printed
    simp only [hfirst, hsecond]
    refine alike_ok ⟨?_⟩ (alike_reading hdone.rest ⟨?_⟩ hdone.stray)
    · simp [hread.fst.unplaced_eq, hprinted.unplaced_eq]
    · simp [hprinted.unplaced_eq, hbefore.unplaced_eq]
  · simp only [hfirst, hsecond]
    exact ⟨congrArg Except.error hfault.unplaced_eq⟩

instance (first second : Parser α) [h : Blind first second] :
    Blind (silent first) (silent second) := by
  refine ⟨fun {scope other reading another} hscope hreading => ?_⟩
  unfold silent
  obtain ⟨⟨result, done⟩, ⟨result', done'⟩, hfirst, hsecond, hread⟩ |
    ⟨fault, fault', hfirst, hsecond, hfault⟩ := (h.alike hscope hreading).results
  · have hdone := hread.snd
    simp only [hfirst, hsecond]
    exact alike_ok hread.fst (alike_reading hdone.rest hreading.printed hdone.stray)
  · simp only [hfirst, hsecond]
    exact ⟨congrArg Except.error hfault.unplaced_eq⟩

instance (first second : Parser α) [h : Blind first second] :
    Blind (ahead? first) (ahead? second) := by
  refine ⟨fun {scope other reading another} hscope hreading => ?_⟩
  unfold ahead?
  obtain ⟨⟨result, done⟩, ⟨result', done'⟩, hfirst, hsecond, hread⟩ |
    ⟨fault, fault', hfirst, hsecond, _⟩ := (h.alike hscope hreading).results
  · have hresult : Alike result result' := hread.fst
    simp only [hfirst, hsecond]
    exact alike_ok inferInstance hreading
  · simp only [hfirst, hsecond]
    exact alike_ok inferInstance hreading

instance (first second : Parser α) [h : Blind first second] :
    Blind (attempt? first) (attempt? second) := by
  refine ⟨fun {scope other reading another} hscope hreading => ?_⟩
  unfold attempt?
  obtain ⟨⟨result, done⟩, ⟨result', done'⟩, hfirst, hsecond, hread⟩ |
    ⟨fault, fault', hfirst, hsecond, _⟩ := (h.alike hscope hreading).results
  · have hresult : Alike result result' := hread.fst
    simp only [hfirst, hsecond]
    exact alike_ok inferInstance hread.snd
  · simp only [hfirst, hsecond]
    exact alike_ok inferInstance hreading

instance (bound : Nat) (first second : Parser (Option α)) [h : Blind first second] :
    Blind (collect bound first) (collect bound second) := by
  induction bound with
  | zero => exact inferInstanceAs (Blind (pure []) (pure []))
  | succ bound ih =>
    refine Blind.bind h fun result other hresult => ?_
    obtain ⟨item, item', rfl, rfl, hitem⟩ | ⟨rfl, rfl⟩ := hresult.options
    · dsimp only
      infer_instance
    · dsimp only
      infer_instance

instance (bound : Nat) (look also : TokenStream → Bool) (first second : Parser α)
    [hlook : ∀ twins : Twins TokenStream, Alike (look twins.first) (also twins.second)]
    [h : Blind first second] :
    Blind (whileSeen bound look first) (whileSeen bound also second) := by
  unfold whileSeen
  infer_instance

instance (bound : Nat) (first second : Parser α) [h : Blind first second] :
    Blind (untilEnd bound first) (untilEnd bound second) := by
  unfold untilEnd
  infer_instance

-- The instance for a list of steps is as large as the list.
set_option synthInstance.maxSize 1000000

instance (bound : Nat) (separator : String) (stops also : TokenStream → Bool)
    (first second : Parser α) [hstops : ∀ twins : Twins TokenStream,
      Alike (stops twins.first) (also twins.second)] [h : Blind first second] :
    Blind (separated bound separator stops first) (separated bound separator also second) := by
  induction bound with
  | zero =>
    unfold separated
    infer_instance
  | succ bound ih =>
    unfold separated
    infer_instance

instance (bound : Nat) (first second : Parser α) [h : Blind first second] :
    Blind (commaTerminated bound first) (commaTerminated bound second) := by
  unfold commaTerminated
  infer_instance

instance (bound : Nat) (separator : String) (stops also : TokenStream → Bool)
    (first second : Parser α) [hstops : ∀ twins : Twins TokenStream,
      Alike (stops twins.first) (also twins.second)] [h : Blind first second] :
    Blind (joined bound separator stops first) (joined bound separator also second) := by
  induction bound with
  | zero =>
    unfold joined
    infer_instance
  | succ bound ih =>
    unfold joined
    infer_instance

/-- Parsers behind the same terminals that come to alike results. -/
class inductive BlindAll : List (Terminal × Parser α) → List (Terminal × Parser α) → Prop
  | nil : BlindAll [] []
  | cons {terminal : Terminal} {first second : Parser α} {rest others : List (Terminal × Parser α)}
      (h : Blind first second) (hrest : BlindAll rest others) :
      BlindAll ((terminal, first) :: rest) ((terminal, second) :: others)

instance : BlindAll ([] : List (Terminal × Parser α)) [] := .nil

instance (terminal : Terminal) (first second : Parser α) (rest others : List (Terminal × Parser α))
    [h : Blind first second] [hrest : BlindAll rest others] :
    BlindAll ((terminal, first) :: rest) ((terminal, second) :: others) :=
  .cons h hrest

/-- Alike rules wait for the same tokens. -/
theorem BlindAll.names_eq {rules others : List (Terminal × Parser α)} (h : BlindAll rules others) :
    rules.map Prod.fst = others.map Prod.fst := by
  induction h with
  | nil => rfl
  | cons _ _ ih => rw [List.map_cons, List.map_cons, ih]

/-- The first rule for a terminal is the same one. -/
theorem BlindAll.find? {rules others : List (Terminal × Parser α)} (h : BlindAll rules others)
    (seen : Terminal → Bool) :
    (∃ rule other, rules.find? (fun rule => seen rule.1) = some rule ∧
        others.find? (fun rule => seen rule.1) = some other ∧ Blind rule.2 other.2) ∨
      rules.find? (fun rule => seen rule.1) = none ∧
        others.find? (fun rule => seen rule.1) = none := by
  induction h with
  | nil => exact .inr ⟨rfl, rfl⟩
  | @cons terminal first second rest others h hrest ih =>
    cases hseen : seen terminal with
    | true => exact .inl ⟨_, _, List.find?_cons_of_pos hseen, List.find?_cons_of_pos hseen, h⟩
    | false => simpa [hseen] using ih

instance (rules others : List (Terminal × Parser α)) [h : BlindAll rules others] :
    Blind (choose rules) (choose others) := by
  refine Blind.bind inferInstance fun tokens tokens' halike => ?_
  simp only [halike.startsWith_eq, h.names_eq]
  obtain ⟨rule, other, hrule, hother, hblind⟩ | ⟨hrule, hother⟩ := h.find? tokens'.startsWith
  · rw [hrule, hother]
    exact hblind
  · rw [hrule, hother]
    infer_instance

/-- A parser that branches is as blind as its branch. -/
theorem Blind.of_eq {first second third fourth : Parser α} (hfirst : first = third)
    (hsecond : second = fourth) (h : Blind third fourth) : Blind first second := by
  rw [hfirst, hsecond]
  exact h

/-- All tokens of a scope are read alike. -/
theorem Blind.run {first second : Parser α} (h : Blind first second) {scope other : Scope}
    {tokens others : TokenStream} (hscope : Alike scope other) (htokens : Alike tokens others) :
    Alike (Parser.run first scope tokens) (Parser.run second other others) := by
  have hstart : Alike (⟨tokens, [], none⟩ : Reading) ⟨others, [], none⟩ :=
    alike_reading htokens inferInstance inferInstance
  unfold Parser.run
  obtain ⟨⟨result, done⟩, ⟨result', done'⟩, hfirst, hsecond, hread⟩ |
    ⟨fault, fault', hfirst, hsecond, hfault⟩ := (h.alike hscope hstart).results
  · have hresult : Alike result result' := hread.fst
    have hdone : Alike done done' := hread.snd
    have hleft := alike_strayAmong .invisible hdone.rest
    simp only [hfirst, hsecond]
    obtain ⟨problem, problem', hstray, hstray', hproblem⟩ | ⟨hstray, hstray'⟩ :=
      hdone.stray.options
    · rw [hstray, hstray']
      exact ⟨congrArg Except.error hproblem.unplaced_eq⟩
    · rw [hstray, hstray']
      obtain ⟨problem, problem', hmore, hmore', hproblem⟩ | ⟨hmore, hmore'⟩ := hleft.options
      · rw [hmore, hmore']
        exact ⟨congrArg Except.error hproblem.unplaced_eq⟩
      · rw [hmore, hmore']
        exact ⟨congrArg Except.ok hresult.unplaced_eq⟩
  · simp only [hfirst, hsecond]
    exact ⟨congrArg Except.error hfault.unplaced_eq⟩

end Parser

end ValuedEnum
