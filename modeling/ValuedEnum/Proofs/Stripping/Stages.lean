import ValuedEnum.Proofs.Stripping.Attributes

/-!
# Stages of reading a unit

A unit has two headings: the one of its enumeration, and the one of the type with the ordinals. A
reader stands in front of the first one, between them, in front of the second one, or behind both.
This file proves that every item leads from stage to stage, that none of them is a module, and that
an enumeration behind the first one has no attributes.
-/

namespace ValuedEnum

open TokenTree

/-- A tree counts for at least one. -/
theorem TokenTree.length_le_sizeAll (trees : List TokenTree) : trees.length ≤ sizeAll trees := by
  induction trees with
  | nil => simp [sizeAll]
  | cons tree rest ih =>
    have htree : 1 ≤ tree.size := by cases tree <;> simp [size]
    rw [sizeAll, List.length_cons]
    omega

namespace TokenStream

/-! ### Taking what leads to a heading -/

/-- What is left of some tokens once attributes, words and restrictions were taken in front of them.
No braces are among what was taken. -/
inductive Leads : TokenStream → TokenStream → Prop
  | done (tokens : TokenStream) : Leads tokens tokens
  | word {tokens rest last : TokenStream} {ident : Ident}
      (h : tokens.word? = some (ident, rest)) (hheading : ident.isHeading = false)
      (hrest : Leads rest last) : Leads tokens last
  | punct {tokens rest last : TokenStream} {char : Char} {spacing : Spacing} {span : Span}
      (h : tokens.punct? = some (char, spacing, span, rest)) (hrest : Leads rest last) :
      Leads tokens last
  | group {tokens rest last inner : TokenStream} {delimiter : Delimiter} {span : Span}
      (hdelimiter : delimiter ≠ .brace) (h : tokens.group? delimiter = some (inner, span, rest))
      (hrest : Leads rest last) : Leads tokens last

variable {tokens rest last front back inner : TokenStream} {span : Span}

/-- What leads to a heading may be taken in two parts. -/
theorem Leads.trans (h : tokens.Leads rest) (hrest : rest.Leads last) : tokens.Leads last := by
  induction h with
  | done => exact hrest
  | word h hheading _ ih => exact .word h hheading (ih hrest)
  | punct h _ ih => exact .punct h (ih hrest)
  | group hdelimiter h _ ih => exact .group hdelimiter h (ih hrest)

/-- What is taken on the way to a heading is passed over. -/
theorem Leads.passes (h : tokens.Leads rest) : tokens.Passes rest := by
  induction h with
  | done => exact .done _
  | word h hheading _ ih => exact .word h hheading ih
  | punct h _ ih => exact .punct h ih
  | group _ h _ ih => exact .group h ih

/-- A tree in sight is the next one. -/
theorem next?_cons {tree : TokenTree} (h : ∀ inner span, tree ≠ .group .invisible inner span)
    (rest : TokenStream) : next? (tree :: rest) = some (tree, rest) := by
  unfold next?
  rw [exposedAll, exposed_eq h]

/-- Braces are not gone past on the way to a heading. -/
theorem Leads.of_append (h : Leads (front ++ .group .brace inner span :: back) rest)
    (hfront : front.Headless) :
    ∃ left : TokenStream, left.Headless ∧ rest = left ++ .group .brace inner span :: back := by
  have hbrace : next? (.group .brace inner span :: back) = some (.group .brace inner span, back) :=
    next?_cons (by simp) back
  generalize htokens : front ++ .group .brace inner span :: back = tokens at h
  induction h generalizing front with
  | done tokens => exact ⟨front, hfront, htokens.symm⟩
  | word hword hheading hrest ih =>
    rcases hfront.word?_cases (htokens ▸ hword) with ⟨left, hleft, rfl, -⟩ | hback
    · exact ih hleft rfl
    · simp [word?_eq_some_iff, hbrace] at hback
  | punct hpunct hrest ih =>
    rcases hfront.punct?_cases (htokens ▸ hpunct) with ⟨left, hleft, rfl⟩ | hback
    · exact ih hleft rfl
    · simp [punct?_eq_some_iff, hbrace] at hback
  | group hdelimiter hgroup hrest ih =>
    rcases hfront.group?_cases (htokens ▸ hgroup) with ⟨left, hleft, rfl⟩ | hback
    · exact ih hleft rfl
    · rename_i delimiter _
      by_cases hinvisible : delimiter = .invisible
      · subst hinvisible
        simp [group?_invisible_eq_some_iff] at hback
      · simp [group?_eq_some_iff hinvisible, hbrace, hdelimiter.symm] at hback

/-- A tree in sight is passed over as a whole, or not at all. -/
theorem Passes.of_cons {tree : TokenTree} (h : Passes (tree :: back) rest)
    (hsight : ∀ inner span, tree ≠ .group .invisible inner span)
    (hquote : ∀ spacing span, tree ≠ .punct '\x27' spacing span) :
    rest = tree :: back ∨
      back.Passes rest ∧ ∀ ident, tree = .ident ident → ident.isHeading = false := by
  have hnext := next?_cons hsight back
  -- A first step takes the tree itself, since nothing hides it. A lifetime could only start with
  -- its quote.
  cases h with
  | done => exact .inl rfl
  | word hword hheading hrest =>
    rw [word?_eq_some_iff, hnext] at hword
    obtain ⟨rfl, rfl⟩ : tree = _ ∧ back = _ := by simpa using hword
    exact .inr ⟨hrest, fun other hother => TokenTree.ident.inj hother ▸ hheading⟩
  | punct hpunct hrest =>
    rw [punct?_eq_some_iff, hnext] at hpunct
    obtain ⟨⟨rfl, rfl⟩, -⟩ : (tree = _ ∧ back = _) ∧ _ := by simpa using hpunct
    exact .inr ⟨hrest, by simp⟩
  | literal hliteral hrest =>
    rw [hnext] at hliteral
    obtain ⟨rfl, rfl⟩ : tree = _ ∧ back = _ := by simpa using hliteral
    exact .inr ⟨hrest, by simp⟩
  | lifetime hlifetime hrest =>
    obtain ⟨behind, hfirst, -⟩ := lifetime?_eq_some_iff.mp hlifetime
    rw [hnext] at hfirst
    obtain ⟨rfl, -⟩ : tree = _ ∧ _ := by simpa using hfirst
    exact absurd rfl (hquote _ _)
  | group hgroup hrest =>
    rename_i delimiter _
    by_cases hinvisible : delimiter = .invisible
    · subst hinvisible
      obtain ⟨rfl, -⟩ : tree = _ ∧ _ := by simpa using group?_invisible_eq_some_iff.mp hgroup
      exact absurd rfl (hsight _ _)
    · rw [group?_eq_some_iff hinvisible, hnext] at hgroup
      obtain ⟨rfl, rfl⟩ : tree = _ ∧ back = _ := by simpa using hgroup
      exact .inr ⟨hrest, by simp⟩

end TokenStream

/-! ### Parsers that lead to a heading -/

namespace Parser

open TokenStream

variable {α β : Type}

/-- A parser that takes only what leads to a heading. -/
class Leading (parser : Parser α) : Prop where
  leads : ∀ ⦃scope : Scope⦄ ⦃reading : Reading⦄ ⦃result : α⦄ ⦃done : Reading⦄,
    parser scope reading = .ok (result, done) → reading.rest.Leads done.rest

/-- A parser that only looks ahead leads to a heading. -/
theorem Leading.of_looks {parser : Parser α}
    (h : ∀ scope reading, ∃ result, parser scope reading = .ok (result, reading)) :
    parser.Leading := by
  refine ⟨fun scope reading result done hrun => ?_⟩
  obtain ⟨seen, hseen⟩ := h scope reading
  obtain ⟨-, rfl⟩ := Prod.mk.inj (Except.ok.inj (hseen.symm.trans hrun))
  exact .done _

/-- Two parsers in a row lead to a heading if both do. -/
theorem Leading.bind (parser : Parser α) [hparser : parser.Leading] {next : α → Parser β}
    (hnext : ∀ result, (next result).Leading) : Leading (parser >>= next) := by
  refine ⟨fun scope reading result done hrun => ?_⟩
  obtain ⟨first, between, hfirst, hrest⟩ := bind_eq_ok_iff.mp hrun
  exact (hparser.leads hfirst).trans ((hnext first).leads hrest)

instance (parser : Parser α) (next : α → Parser β) [parser.Leading]
    [h : ∀ result, (next result).Leading] : Leading (parser >>= next) :=
  Leading.bind parser h

instance (condition : Prop) [Decidable condition] (first second : Parser α)
    [hfirst : first.Leading] [hsecond : second.Leading] :
    Leading (if condition then first else second) := by
  split
  · exact hfirst
  · exact hsecond

instance (result : α) : Leading (pure result) := .of_looks fun _ _ => ⟨_, rfl⟩

instance : Leading remaining := .of_looks fun _ _ => ⟨_, rfl⟩

instance (terminal : Terminal) : Leading (sees terminal) := .of_looks fun _ _ => ⟨_, rfl⟩

instance (parser : Parser α) : Leading (ahead? parser) :=
  ⟨fun _ _ _ _ hrun => (eq_of_ahead? hrun).1 ▸ .done _⟩

instance : Leading (take (.word "pub")) := by
  refine ⟨fun scope reading result done hrun => ?_⟩
  obtain ⟨ident, hword, htext⟩ := word?_of_take hrun
  exact .word hword (by simp [Ident.isHeading, htext]) (.done _)

instance : Leading (sign "#") := by
  refine ⟨fun scope reading result done hrun => ?_⟩
  obtain ⟨spans, hsign⟩ := sign?_of_sign hrun
  obtain ⟨_, _, hpunct, _⟩ := punct?_of_sign? hsign
  exact .punct hpunct (.done _)

/-- A group other than braces may be taken on the way to a heading. -/
theorem leading_delimited {delimiter : Delimiter} (h : delimiter ≠ .brace) (content : Parser α) :
    Leading (delimited delimiter content) := by
  refine ⟨fun scope reading result done hrun => ?_⟩
  obtain ⟨_, _, hgroup, _⟩ := delimited_eq_ok hrun
  exact .group h hgroup (.done _)

instance (content : Parser α) : Leading (delimited .bracket content) :=
  leading_delimited (by decide) content

instance (content : Parser α) : Leading (delimited .parenthesis content) :=
  leading_delimited (by decide) content

instance (bound : Nat) (condition : TokenStream → Bool) (parser : Parser α) [parser.Leading] :
    Leading (whileSeen bound condition parser) := by
  unfold whileSeen
  induction bound with
  | zero => exact inferInstanceAs (Leading (pure []))
  | succ bound ih =>
    refine Leading.bind _ fun found => ?_
    split
    · infer_instance
    · infer_instance

end Parser

namespace Visibility

open ValuedEnum.Parser TokenStream

instance : Leading restriction? := by
  unfold restriction?
  refine Leading.bind _ fun seen => ?_
  split
  · infer_instance
  · refine Leading.bind _ fun tried => ?_
    split <;> infer_instance

instance : Leading parser := by
  refine ⟨fun scope reading visibility done hrun => ?_⟩
  have hother : Leading (do
      if ← accept (.word "pub") then
        return (← restriction?).getD anywhere
      else return inherited) := by
    unfold accept
    infer_instance
  unfold parser at hrun
  rw [remaining_bind] at hrun
  generalize htokens : reading.rest = tokens at hrun
  split at hrun
  · rename_i span rest
    rw [advance_bind, pure_eq_ok_iff] at hrun
    obtain ⟨-, rfl⟩ := hrun
    exact .group (by decide) (group?_invisible_eq_some_iff.mpr rfl) (.done rest)
  · exact htokens ▸ hother.leads hrun

end Visibility

instance (rules : Rules) : Parser.Leading (Attribute.outerAll rules) := by
  unfold Attribute.outerAll Attribute.outerParser
  infer_instance

/-! ### Stages -/

open TokenStream

/-- A word that is no heading, or arguments between parentheses. -/
def TokenTree.Modifies : TokenTree → Prop
  | .ident name => name.isHeading = false
  | .group delimiter .. => delimiter = .parenthesis
  | _ => False

/-- The tokens of a unit: two headings behind the same modifiers, with braces somewhere between
them. -/
structure Layout where
  modifiers : TokenStream
  first : Ident
  body : TokenStream
  inner : TokenStream
  braces : Span
  second : Ident
  tail : TokenStream
  modifies : ∀ tree ∈ modifiers, tree.Modifies
  first_eq : first.text = "enum"
  body_headless : body.Headless
  second_eq : second.text = "enum"
  tail_headless : tail.Headless

namespace Layout

variable (layout : Layout)

/-- The braces and the second heading, with what stands between them and behind. -/
def behindBody : TokenStream :=
  .group .brace layout.inner layout.braces ::
    (layout.modifiers ++ .ident layout.second :: layout.tail)

/-- What stands behind the first heading. -/
def behindFirst : TokenStream := layout.body ++ layout.behindBody

/-- All tokens of a unit. -/
def tokens : TokenStream := layout.modifiers ++ .ident layout.first :: layout.behindFirst

/-- Where a reader of a unit may stand. -/
inductive Stage : TokenStream → Prop
  | first {left : TokenStream} (h : ∀ tree ∈ left, tree.Modifies) :
      Stage (left ++ .ident layout.first :: layout.behindFirst)
  | between {left : TokenStream} (h : left.Headless) : Stage (left ++ layout.behindBody)
  | second {left : TokenStream} (h : ∀ tree ∈ left, tree.Modifies) :
      Stage (left ++ .ident layout.second :: layout.tail)
  | last {left : TokenStream} (h : left.Headless) : Stage left

end Layout

/-- Nothing that leads from some tokens to a heading is among them. -/
def TokenStream.Calm (tokens : TokenStream) : Prop :=
  ∀ ⦃rest behind : TokenStream⦄ ⦃ident : Ident⦄, tokens.Leads rest →
    rest.word? = some (ident, behind) → ident.isHeading = false

namespace TokenStream

variable {tokens rest front back : TokenStream} {ident : Ident}

/-- Modifiers are passed over one by one, up to a heading. -/
theorem Passes.of_modifiers (h : Passes (front ++ .ident ident :: back) rest)
    (hfront : ∀ tree ∈ front, tree.Modifies) (hheading : ident.isHeading = true) :
    ∃ left : TokenStream, (∀ tree ∈ left, tree.Modifies) ∧ rest = left ++ .ident ident :: back := by
  induction front with
  | nil =>
    rcases h.of_cons (by simp) (by simp) with rfl | ⟨-, hplain⟩
    · exact ⟨[], by simp, rfl⟩
    · simp [hplain ident rfl] at hheading
  | cons tree front ih =>
    obtain ⟨htree, hmore⟩ := List.forall_mem_cons.mp hfront
    have hsight : ∀ inner span, tree ≠ .group .invisible inner span := by
      rintro inner span rfl
      simp [Modifies] at htree
    have hquote : ∀ spacing span, tree ≠ .punct '\x27' spacing span := by
      rintro spacing span rfl
      simp [Modifies] at htree
    rcases h.of_cons hsight hquote with rfl | ⟨hrest, -⟩
    · exact ⟨tree :: front, hfront, rfl⟩
    · exact ih hrest hmore

/-- Among modifiers in front of a heading no attribute starts. -/
theorem startsWith_of_modifiers (hfront : ∀ tree ∈ front, tree.Modifies) :
    startsWith (front ++ .ident ident :: back) (.sign "#") = false := by
  have hword {name : Ident} {rest : TokenStream} :
      startsWith (.ident name :: rest) (.sign "#") = false := by
    rfl
  cases front with
  | nil => exact hword
  | cons tree front =>
    have htree := hfront tree List.mem_cons_self
    cases tree with
    | ident name => exact hword
    | group delimiter inner span =>
      obtain rfl : delimiter = .parenthesis := htree
      rfl
    | _ => simp [Modifies] at htree

/-- Behind modifiers, the next heading is the one that they stand in front of. -/
theorem word?_of_modifiers {other : Ident} (hfront : ∀ tree ∈ front, tree.Modifies)
    (h : word? (front ++ .ident ident :: back) = some (other, rest))
    (hother : other.isHeading = true) : other = ident ∧ rest = back := by
  have hword {name : Ident} {rest : TokenStream} :
      word? (.ident name :: rest) = some (name, rest) := by
    rfl
  cases front with
  | nil =>
    rw [List.nil_append, hword] at h
    obtain ⟨rfl, rfl⟩ : ident = other ∧ back = rest := by simpa using h
    exact ⟨rfl, rfl⟩
  | cons tree front =>
    have htree := hfront tree List.mem_cons_self
    cases tree with
    | ident name =>
      rw [List.cons_append, hword] at h
      obtain ⟨rfl, -⟩ : name = other ∧ _ := by simpa using h
      simp [Modifies, hother] at htree
    | group delimiter inner span =>
      obtain rfl : delimiter = .parenthesis := htree
      have hgroup : next? (.group .parenthesis inner span :: (front ++ .ident ident :: back)) =
          some (.group .parenthesis inner span, front ++ .ident ident :: back) :=
        next?_cons (by simp) _
      simp [word?_eq_some_iff, hgroup] at h
    | _ => simp [Modifies] at htree

/-- What is left behind was there before, so it holds no heading if there was none. -/
theorem Passes.headless (h : tokens.Passes rest) (htokens : tokens.Headless) : rest.Headless := by
  have happend : Passes (tokens ++ []) rest := by simpa using h
  rcases happend.of_append htokens with ⟨left, hleft, rfl⟩ | hnil
  · simpa using hleft
  · obtain rfl : rest = [] := by
      cases hnil with
      | done => rfl
      | group hgroup => simp [group?, next?, exposedAll] at hgroup
      | _ => simp_all [word?, punct?, lifetime?, next?, exposedAll]
    exact .nil

/-- Tokens without headings are calm. -/
theorem Headless.calm (h : tokens.Headless) : tokens.Calm := by
  intro rest behind ident hleads hword
  cases (hleads.passes.headless h).of_next? (word?_eq_some_iff.mp hword) with
  | word hheading => exact hheading

end TokenStream

namespace Layout

variable {layout : Layout} {tokens rest : TokenStream}

/-- In front of the braces no heading is the next word. -/
theorem word?_behindBody {left : TokenStream} (h : left.Headless) {ident : Ident}
    (hword : word? (left ++ layout.behindBody) = some (ident, rest)) :
    ident.isHeading = false := by
  rcases h.word?_cases hword with ⟨_, _, _, hheading⟩ | hback
  · exact hheading
  · have hbraces : next? layout.behindBody = some (.group .brace layout.inner layout.braces,
        layout.modifiers ++ .ident layout.second :: layout.tail) := next?_cons (by simp) _
    rw [word?_eq_some_iff, hbraces] at hback
    simp at hback

/-- Between the two headings a reader stands at calm tokens until it takes the braces. -/
theorem calm_behindBody {left : TokenStream} (h : left.Headless) :
    Calm (left ++ layout.behindBody) := by
  intro rest behind ident hleads hword
  obtain ⟨left, hleft, rfl⟩ := hleads.of_append h
  exact word?_behindBody hleft hword

/-- An attribute is read in front of a heading only where it leads to none. -/
theorem Stage.calm_or (h : layout.Stage tokens) :
    tokens.Calm ∨ tokens.startsWith (.sign "#") = false := by
  cases h with
  | first h => exact .inr (startsWith_of_modifiers h)
  | between h => exact .inl (calm_behindBody h)
  | second h => exact .inr (startsWith_of_modifiers h)
  | last h => exact .inl h.calm

/-- From a stage a reader that takes no heading comes to a stage. -/
theorem Stage.passes (h : layout.Stage tokens) (hpasses : tokens.Passes rest) :
    layout.Stage rest := by
  have hfirst : layout.first.isHeading = true := by simp [Ident.isHeading, layout.first_eq]
  have hsecond : layout.second.isHeading = true := by simp [Ident.isHeading, layout.second_eq]
  cases h with
  | first h =>
    obtain ⟨left, hleft, rfl⟩ := hpasses.of_modifiers h hfirst
    exact .first hleft
  | between h =>
    rcases hpasses.of_append h with ⟨left, hleft, rfl⟩ | hbehind
    · exact .between hleft
    · -- The braces are passed over as a whole, so the second heading comes next.
      rcases hbehind.of_cons (by simp) (by simp) with rfl | ⟨hmore, -⟩
      · exact .between .nil
      · obtain ⟨left, hleft, rfl⟩ := hmore.of_modifiers layout.modifies hsecond
        exact .second hleft
  | second h =>
    obtain ⟨left, hleft, rfl⟩ := hpasses.of_modifiers h hsecond
    exact .second hleft
  | last h => exact .last (hpasses.headless h)

/-- Headings are those of enumerations, and behind one there is another stage. -/
theorem Stage.word? {ident : Ident} (h : layout.Stage tokens)
    (hword : tokens.word? = some (ident, rest)) (hheading : ident.isHeading = true) :
    ident.text = "enum" ∧ layout.Stage rest := by
  cases h with
  | first h =>
    obtain ⟨rfl, rfl⟩ := word?_of_modifiers h hword hheading
    exact ⟨layout.first_eq, .between layout.body_headless⟩
  | between h => simp [word?_behindBody h hword] at hheading
  | second h =>
    obtain ⟨rfl, rfl⟩ := word?_of_modifiers h hword hheading
    exact ⟨layout.second_eq, .last layout.tail_headless⟩
  | last h => simp [h.calm (.done _) hword] at hheading

end Layout

/-! ### Items of a unit -/

/-- An item that is nothing, or an enumeration none of whose attributes asks for a wrapper. -/
inductive Item.Clean (schema : Schema) : Item → Prop
  | other : Clean schema .other
  | enumeration {item : EnumItem} (h : ∀ attr ∈ item.attributes, schema.isWrapper attr = false) :
      Clean schema (.enumeration item)

namespace ItemRule

open ValuedEnum.Parser

variable {rules : Rules} [rules.Keep] {scope : Scope} {reading done : Reading}

omit [rules.Keep] in
/-- An enumeration has the attributes that were read in front of it. -/
theorem tells_attributes (attributes : List Attribute) :
    (enumeration rules attributes).Tells fun item => item.attributes = attributes := by
  unfold enumeration
  exact .of_next fun _ => .of_next fun _ => .of_next fun _ => .of_next fun _ => .of_next fun _ =>
    .of_next fun _ => tells_pure rfl

/-- An enumeration is read from its heading on. -/
theorem enumeration_eq_ok {attributes : List Attribute} {item : EnumItem}
    (h : enumeration rules attributes scope reading = .ok (item, done)) :
    item.attributes = attributes ∧ ∃ front ident behind, reading.rest.Leads front ∧
      front.word? = some (ident, behind) ∧ ident.text = "enum" ∧ behind.Passes done.rest := by
  have hattributes := tells_attributes attributes h
  unfold enumeration at h
  obtain ⟨visibility, first, hvisibility, h⟩ := bind_eq_ok_iff.mp h
  obtain ⟨_, second, hword, hrest⟩ := bind_eq_ok_iff.mp h
  obtain ⟨ident, hword, htext⟩ := word?_of_take hword
  have hpassed := Quiet.passes trivial hrest
  exact ⟨hattributes, first.rest, ident, second.rest, Leading.leads hvisibility, hword, htext,
    hpassed.passes⟩

omit [rules.Keep] in
/-- A module is read from its heading on. -/
theorem moduleItem_eq_ok {item : Item} (h : moduleItem rules scope reading = .ok (item, done)) :
    ∃ front ident behind, reading.rest.Passes front ∧ front.word? = some (ident, behind) ∧
      ident.text = "mod" := by
  unfold moduleItem at h
  obtain ⟨visibility, first, hvisibility, h⟩ := bind_eq_ok_iff.mp h
  obtain ⟨_, second, hmark, h⟩ := bind_eq_ok_iff.mp h
  obtain ⟨_, third, hword, -⟩ := bind_eq_ok_iff.mp h
  obtain ⟨ident, hword, htext⟩ := word?_of_take hword
  have hfront : reading.rest.Passes first.rest := (Quiet.passes trivial hvisibility).passes
  have hskip : first.rest.Passes second.rest := (Quiet.passes trivial hmark).passes
  exact ⟨second.rest, ident, third.rest, hfront.trans hskip, hword, htext⟩

/-- An item that is read from a stage leads to a stage. It is no module, and where nothing leads to
a heading it is no enumeration. -/
theorem stage_of_rule {layout : Layout} {attributes : List Attribute} {item : Item}
    (hstage : layout.Stage reading.rest)
    (hrun : rule rules attributes scope reading = .ok (item, done)) :
    layout.Stage done.rest ∧ (item = .other ∨
      ¬ reading.rest.Calm ∧ ∃ read, item = .enumeration read ∧ read.attributes = attributes) := by
  cases reads_rule hrun with
  | other h => exact ⟨hstage.passes h.passes, .inl rfl⟩
  | enumeration h =>
    rename_i read
    obtain ⟨hattributes, front, ident, behind, hleads, hword, htext, hbehind⟩ :=
      enumeration_eq_ok h
    have hheading : ident.isHeading = true := by simp [Ident.isHeading, htext]
    obtain ⟨-, hnext⟩ := (hstage.passes hleads.passes).word? hword hheading
    -- What was taken in front of the heading leads to it.
    refine ⟨hnext.passes hbehind, .inr ⟨fun hcalm => ?_, read, rfl, hattributes⟩⟩
    simp [hcalm hleads hword] at hheading
  | module h =>
    obtain ⟨front, ident, behind, hpasses, hword, htext⟩ := moduleItem_eq_ok h
    have hheading : ident.isHeading = true := by simp [Ident.isHeading, htext]
    obtain ⟨henum, -⟩ := (hstage.passes hpasses).word? hword hheading
    simp [htext] at henum

omit [rules.Keep] in
/-- Where something leads to a heading, no attributes stand in front of it. -/
theorem stage_of_outerAll {layout : Layout} {attributes : List Attribute}
    (hstage : layout.Stage reading.rest)
    (hrun : Attribute.outerAll rules scope reading = .ok (attributes, done)) :
    layout.Stage done.rest ∧ (attributes = [] ∨ done.rest.Calm) := by
  have hleads : reading.rest.Leads done.rest := Leading.leads hrun
  refine ⟨hstage.passes hleads.passes, ?_⟩
  rcases hstage.calm_or with hcalm | hstart
  · exact .inr fun _ _ _ hmore hword => hcalm (hleads.trans hmore) hword
  · exact .inl (whileSeen_stops hstart hrun).1

end ItemRule

namespace Grammar

open ValuedEnum.Parser ItemRule

variable {schema : Schema} {layout : Layout} {limit depth : Nat} {scope : Scope}
  {reading done : Reading}

/-- An item is read by the rule of items, with rules of less depth for what is inside of it. -/
theorem rule_of_item {attributes : List Attribute} {item : Item}
    (h : (Grammar.rules limit depth).item attributes scope reading = .ok (item, done)) :
    ∃ inner, rule (Grammar.rules limit inner) attributes scope reading = .ok (item, done) := by
  cases depth with
  | zero => exact absurd h (fails_expectedAmong []).ne_ok
  | succ depth => exact ⟨depth, h⟩

/-- From stage to stage every item is clean. -/
theorem clean_of_item {attributes : List Attribute} {item : Item}
    (hstage : layout.Stage reading.rest)
    (hattributes : reading.rest.Calm ∨ ∀ attr ∈ attributes, schema.isWrapper attr = false)
    (h : (Grammar.rules limit depth).item attributes scope reading = .ok (item, done)) :
    layout.Stage done.rest ∧ item.Clean schema := by
  obtain ⟨inner, hrule⟩ := rule_of_item h
  obtain ⟨hdone, rfl | ⟨hcalm, read, rfl, rfl⟩⟩ := stage_of_rule hstage hrule
  · exact ⟨hdone, .other⟩
  · exact ⟨hdone, .enumeration (hattributes.resolve_left hcalm)⟩

/-- All items that are read from a stage on are clean. -/
theorem clean_of_untilEnd {bound : Nat} {items : List Item} (hstage : layout.Stage reading.rest)
    (h : untilEnd bound (do
      (Grammar.rules limit depth).item (← Attribute.outerAll (Grammar.rules limit depth)))
      scope reading = .ok (items, done)) : ∀ item ∈ items, item.Clean schema := by
  induction bound generalizing reading items with
  | zero =>
    obtain ⟨rfl, -⟩ := pure_eq_ok_iff.mp h
    simp
  | succ bound ih =>
    cases hempty : reading.rest.isEmpty with
    | true =>
      obtain ⟨rfl, -⟩ := whileSeen_stops (by simp [hempty]) h
      simp
    | false =>
      obtain ⟨item, between, rest, hitem, hrest, rfl⟩ := whileSeen_goes (by simp [hempty]) h
      obtain ⟨attributes, behind, houter, hrule⟩ := bind_eq_ok_iff.mp hitem
      obtain ⟨hbehind, hnone⟩ := stage_of_outerAll hstage houter
      have hattributes : behind.rest.Calm ∨ ∀ attr ∈ attributes, schema.isWrapper attr = false :=
        hnone.symm.imp_right fun hnil => by simp [hnil]
      obtain ⟨hnext, hclean⟩ := clean_of_item hbehind hattributes hrule
      exact List.forall_mem_cons.mpr ⟨hclean, ih hnext hrest⟩

/-- No attribute of the file stands in front. -/
theorem not_inner {attributes : List Attribute} :
    (startsWith (attributes.flatMap Attribute.tokens ++ layout.tokens) (.sign "#") &&
      secondIs (attributes.flatMap Attribute.tokens ++ layout.tokens) (.sign "!")) = false := by
  cases attributes with
  | nil =>
    have hstart : layout.tokens.startsWith (.sign "#") = false :=
      startsWith_of_modifiers layout.modifies
    simp [hstart]
  | cons attr rest =>
    have hsecond : secondIs (attr.tokens ++ (rest.flatMap Attribute.tokens ++ layout.tokens))
        (.sign "!") = false := by
      rfl
    simp [hsecond]

/-- There are no more attributes than the bound for their tokens allows. -/
theorem length_le_limit (attributes : List Attribute) (back : TokenStream) :
    attributes.length ≤ (rulesFor (attributes.flatMap Attribute.tokens ++ back)).limit := by
  have hsize := TokenTree.length_le_sizeAll (attributes.flatMap Attribute.tokens ++ back)
  have hlength : (attributes.flatMap Attribute.tokens).length = attributes.length * 2 := by
    simp [List.length_flatMap, Attribute.tokens, List.map_const']
  rw [List.length_append, hlength] at hsize
  change _ ≤ TokenTree.sizeAll _ + 2
  omega

/-- Attributes that end in the same words ask for a wrapper in the same cases. -/
theorem isWrapper_of_last {attributes all : List Attribute}
    (hlast : all.map (·.path.last) = attributes.map (·.path.last))
    (h : ∀ attr ∈ attributes, schema.isWrapper attr = false) :
    ∀ attr ∈ all, schema.isWrapper attr = false := by
  intro attr hattr
  obtain ⟨other, hother, hsame⟩ := List.mem_map.mp (hlast ▸ List.mem_map_of_mem hattr)
  have hnone := h other hother
  rwa [Schema.isWrapper, hsame, ← Schema.isWrapper] at hnone

/-- Behind attributes that ask for no wrapper, all items of a unit are clean. -/
theorem clean_of_file {attributes : List Attribute} (hparsed : ∀ attr ∈ attributes, attr.Parsed)
    (hattributes : ∀ attr ∈ attributes, schema.isWrapper attr = false) {file : SourceFile}
    (h : Grammar.file (attributes.flatMap Attribute.tokens ++ layout.tokens) = .ok file) :
    ∀ item ∈ file, item.Clean schema := by
  have hlimit := length_le_limit attributes layout.tokens
  obtain ⟨done, hread, -, -⟩ := run_eq_ok_iff.mp h
  obtain ⟨_, first, hinner, hitems⟩ := bind_eq_ok_iff.mp hread
  obtain ⟨_, second, hskip, hunit⟩ := bind_eq_ok_iff.mp hinner
  obtain ⟨-, rfl⟩ := pure_eq_ok_iff.mp hunit
  obtain ⟨-, rfl⟩ := whileSeen_stops not_inner hskip
  have hnonempty : (!(attributes.flatMap Attribute.tokens ++ layout.tokens).isEmpty) = true := by
    simp [Layout.tokens]
  -- The attributes of the unit are those of the first item. All others start at a stage.
  obtain ⟨item, between, rest, hitem, hrest, rfl⟩ := whileSeen_goes hnonempty hitems
  obtain ⟨all, behind, houter, hrule⟩ := bind_eq_ok_iff.mp hitem
  obtain ⟨hlast, hbehind⟩ := Attribute.last_of_outerAll hparsed hlimit
    (startsWith_of_modifiers layout.modifies) rfl houter
  have hstage : layout.Stage behind.rest := hbehind ▸ .first layout.modifies
  obtain ⟨hnext, hclean⟩ := clean_of_item hstage (.inr (isWrapper_of_last hlast hattributes)) hrule
  exact List.forall_mem_cons.mpr ⟨hclean, clean_of_untilEnd hnext hrest⟩

end Grammar

end ValuedEnum
