import ValuedEnum.Proofs.Stripping.Parsed

/-!
# Words as they are taken

The words that are read from a text are such as the lexer cuts off, and so are those that a parser
takes and leaves. `Parser.Takes` adds a property of what is returned. Items are passed over or kept
as in `ItemRule.Reads`, so this file proves of all enumerations of a file what holds of one that is
read from such words.
-/

namespace ValuedEnum

namespace TokenTree

/-- Trees whose words the lexer cuts off a text. -/
inductive Worded : TokenTree → Prop
  | group {delimiter : Delimiter} {inner : List TokenTree} {span : Span}
      (h : ∀ tree ∈ inner, Worded tree) : Worded (.group delimiter inner span)
  | ident {name : Ident} (h : name.IsWord) : Worded (.ident name)
  | punct {char : Char} {spacing : Spacing} {span : Span} : Worded (.punct char spacing span)
  | literal {text : String} {span : Span} : Worded (.literal text span)

/-- A word that is worded is one that the lexer cuts off. -/
theorem Worded.isWord {name : Ident} (h : (TokenTree.ident name).Worded) : name.IsWord := by
  cases h with
  | ident hname => exact hname

/-- The trees in a group are worded if the group is. -/
theorem hereditary_worded : Hereditary Worded := by
  rintro _ _ _ ⟨h⟩
  exact h

end TokenTree

namespace TokenStream

/-- Tokens whose words the lexer cuts off a text. -/
abbrev Worded (tokens : TokenStream) : Prop := ∀ tree ∈ tokens, tree.Worded

/-- The tokens of a text are worded. -/
theorem worded_ofChars {text : List Char} {tokens : TokenStream} (h : ofChars text = .ok tokens) :
    tokens.Worded := by
  have hworded : Lexer.Lexical TokenTree.Worded :=
    { group := fun _ _ _ _ hinner => .group hinner
      ident := fun _ hname => .ident hname
      punct := fun _ _ _ => .punct
      literal := fun _ _ _ => .literal }
  exact hworded.of_ofChars h

variable {tokens rest : TokenStream}

/-- The next one of worded tokens, if it is a word, is one that the lexer cuts off. -/
theorem Worded.of_word? (h : tokens.Worded) {ident : Ident}
    (hword : tokens.word? = some (ident, rest)) : ident.IsWord ∧ rest.Worded := by
  obtain ⟨hident, hrest⟩ := TokenTree.hereditary_worded.of_word? h hword
  exact ⟨hident.isWord, hrest⟩

/-- What is left behind was there before, so it is worded if all tokens were. -/
theorem Passes.worded (h : tokens.Passes rest) (htokens : tokens.Worded) : rest.Worded :=
  h.of_hereditary TokenTree.hereditary_worded htokens

end TokenStream

namespace Parser

variable {α β : Type}

/-- From worded tokens a parser goes on to worded tokens, and what it returns has a property. -/
def Takes (parser : Parser α) (post : α → Prop) : Prop :=
  ∀ ⦃scope : Scope⦄ ⦃reading : Reading⦄ ⦃result : α⦄ ⦃done : Reading⦄, reading.rest.Worded →
    parser scope reading = .ok (result, done) → post result ∧ done.rest.Worded

variable {post : α → Prop}

/-- To return something takes no tokens. -/
theorem takes_pure {result : α} (h : post result) : Takes (pure result) post := by
  intro scope reading other done hreading hrun
  obtain ⟨rfl, rfl⟩ := pure_eq_ok_iff.mp hrun
  exact ⟨h, hreading⟩

/-- The second of two parsers may rely on what is known of the first result. -/
theorem Takes.bind {parser : Parser β} {next : β → Parser α} {mid : β → Prop}
    (h : parser.Takes mid) (hnext : ∀ result, mid result → (next result).Takes post) :
    Takes (parser >>= next) post := by
  intro scope reading result done hreading hrun
  obtain ⟨first, between, hfirst, hrest⟩ := bind_eq_ok_iff.mp hrun
  obtain ⟨hmid, hbetween⟩ := h hreading hfirst
  exact hnext first hmid hbetween hrest

/-- A parser that takes no heading is of no interest for what follows. -/
theorem Quiet.takes (parser : Parser β) [hquiet : parser.Quiet] {next : β → Parser α}
    (hnext : ∀ result, (next result).Takes post) : Takes (parser >>= next) post := by
  have hparser : parser.Takes fun _ => True := fun _ _ _ _ hreading hrun =>
    ⟨trivial, (hquiet.passes trivial hrun).passes.worded hreading⟩
  exact hparser.bind fun result _ => hnext result

/-- A parser that never succeeds takes nothing. -/
theorem Fails.takes {parser : Parser α} (h : parser.Fails) (post : α → Prop) :
    parser.Takes post :=
  fun _ _ _ _ _ hrun => absurd hrun h.ne_ok

/-- What both branches of a parser return has the property. -/
theorem takes_ite {condition : Prop} [Decidable condition] {first second : Parser α}
    (hfirst : first.Takes post) (hsecond : second.Takes post) :
    Takes (if condition then first else second) post := by
  split
  · exact hfirst
  · exact hsecond

/-- A word that is taken is one that the lexer cuts off. -/
theorem takes_anyWord : anyWord.Takes Ident.IsWord :=
  fun _ _ _ _ hreading hrun => hreading.of_word? (word?_of_anyWord hrun)

/-- A given word may be taken. -/
theorem takes_word (text : String) : (take (.word text)).Takes fun _ => True := by
  intro scope reading result done hreading hrun
  obtain ⟨ident, hword, -⟩ := word?_of_take hrun
  exact ⟨trivial, (hreading.of_word? hword).2⟩

/-- What is returned in a group has the property that it has elsewhere. -/
theorem takes_delimited {content : Parser α} (h : content.Takes post) (delimiter : Delimiter) :
    (delimited delimiter content).Takes fun read => post read.1 := by
  intro scope reading result done hreading hrun
  obtain ⟨inner, last, hgroup, hread⟩ := delimited_eq_ok hrun
  obtain ⟨hinner, hrest⟩ := TokenTree.hereditary_worded.of_group? hreading hgroup
  have hcontent : (⟨inner, [], reading.stray⟩ : Reading).rest.Worded := hinner
  exact ⟨(h hcontent hread).1, hrest⟩

/-- All elements of a repetition have the property of one. -/
theorem takes_whileSeen {parser : Parser α} (h : parser.Takes post) (bound : Nat)
    (condition : TokenStream → Bool) :
    (whileSeen bound condition parser).Takes fun all => ∀ item ∈ all, post item := by
  unfold whileSeen
  induction bound with
  | zero => exact takes_pure (by simp)
  | succ bound ih =>
    have hstep : Takes (do
        if condition (← remaining) then return some (← parser) else return none)
        fun found => ∀ item ∈ found, post item := by
      refine Quiet.takes _ fun tokens => takes_ite ?_ (takes_pure (by simp))
      exact h.bind fun item hitem => takes_pure (by simpa using hitem)
    refine hstep.bind fun found hfound => ?_
    split
    · refine ih.bind fun rest hrest => takes_pure ?_
      exact List.forall_mem_cons.mpr ⟨hfound _ rfl, hrest⟩
    · exact takes_pure (by simp)

/-- What a whole run on worded tokens returns has the property. -/
theorem Takes.of_run {parser : Parser α} (h : parser.Takes post) {scope : Scope}
    {tokens : TokenStream} (htokens : tokens.Worded) {result : α}
    (hrun : parser.run scope tokens = .ok result) : post result := by
  obtain ⟨done, hread, -⟩ := run_eq_ok_iff.mp hrun
  have hreading : (⟨tokens, [], none⟩ : Reading).rest.Worded := htokens
  exact (h hreading hread).1

end Parser

open ValuedEnum.Parser

/-! ### Files -/

namespace ItemRule

/-- Rules that read enumerations with a property from worded tokens. -/
def TakesItems (holds : EnumItem → Prop) (rules : Rules) : Prop :=
  ∀ attributes, (rules.item attributes).Takes (Item.Declares holds)

variable {holds : EnumItem → Prop} {rules : Rules} [rules.Keep]

/-- All enumerations of a file have the property, if those of its items do. -/
theorem takes_file (h : TakesItems holds rules) :
    (file rules).Takes fun items => ∀ item ∈ items, item.Declares holds := by
  have hitem : Takes (do rules.item (← Attribute.outerAll rules)) (Item.Declares holds) :=
    Quiet.takes _ h
  exact Quiet.takes _ fun _ => takes_whileSeen hitem _ _

/-- All enumerations of a module have the property, if those of its items do. -/
theorem takes_moduleItem (h : TakesItems holds rules) :
    (moduleItem rules).Takes (Item.Declares holds) := by
  unfold moduleItem
  refine Quiet.takes _ fun visibility => Quiet.takes _ fun _ => ?_
  refine (takes_word "mod").bind fun _ _ => Quiet.takes _ fun raw => ?_
  extract_lets body
  have hbody (ident : Ident) : (body ident).Takes (Item.Declares holds) := by
    refine Quiet.takes _ fun ended => takes_ite ?_ (Quiet.takes _ fun braced => takes_ite ?_ ?_)
    · exact takes_pure (Item.declares_module (by simp) ident)
    · refine (takes_delimited (takes_file h) .brace).bind fun read hitems => ?_
      exact takes_pure (Item.declares_module hitems ident)
    · exact (fails_expectedAmong _).takes _
  exact takes_ite (takes_anyWord.bind fun ident _ => hbody ident) (Quiet.takes _ hbody)

/-- An enumeration is read from worded tokens, and a module like a file. -/
theorem takes_rule (henumeration : ∀ attributes, (enumeration rules attributes).Takes holds)
    (h : TakesItems holds rules) (attributes : List Attribute) :
    (rule rules attributes).Takes (Item.Declares holds) := by
  intro scope reading item done hreading hrun
  cases reads_rule hrun with
  | other hpassed => exact ⟨Item.declares_other, hpassed.passes.worded hreading⟩
  | enumeration hread =>
    obtain ⟨hitem, hdone⟩ := henumeration attributes hreading hread
    exact ⟨Item.declares_enumeration hitem, hdone⟩
  | module hmodule => exact takes_moduleItem h hreading hmodule

end ItemRule

namespace Grammar

/-- At any depth the rules of the grammar read such items. -/
theorem takesItems_rules {holds : EnumItem → Prop}
    (h : ∀ rules : Rules, rules.Keep →
      ∀ attributes, (ItemRule.enumeration rules attributes).Takes holds)
    (limit depth : Nat) : ItemRule.TakesItems holds (Grammar.rules limit depth) := by
  induction depth with
  | zero => exact fun _ => (fails_expectedAmong []).takes _
  | succ depth ih => exact ItemRule.takes_rule (h _ inferInstance) ih

/-- What holds of all enumerations that are read from worded tokens holds of those of a file. -/
theorem declares_of_file {holds : EnumItem → Prop}
    (h : ∀ rules : Rules, rules.Keep →
      ∀ attributes, (ItemRule.enumeration rules attributes).Takes holds)
    {tokens : TokenStream} (htokens : tokens.Worded) {file : SourceFile}
    (hfile : Grammar.file tokens = .ok file) :
    ∀ entry ∈ Item.declaredAll [] file, holds entry.item := by
  have hitems : ∀ item ∈ file, item.Declares holds :=
    (ItemRule.takes_file (takesItems_rules h _ _)).of_run htokens hfile
  exact Item.declares_declaredAll hitems []

end Grammar

end ValuedEnum
