import ValuedEnum.Proofs.Containment
import ValuedEnum.Proofs.Spelling.Grammar
import ValuedEnum.SourceText

/-!
# Names from a source

The names of modules and wrappers are words of the source text, or of the text of a string literal
in it. This file proves that all of them are identifiers, whatever the text is.
-/

namespace ValuedEnum

/-- The tokens of the text of a file. -/
def SourceText.tokens (text : String) : Except Problem TokenStream :=
  TokenStream.ofChars (afterInterpreter (withoutMark text.toList))

/-- The items of a text are read from its tokens. -/
theorem SourceFile.exists_tokens_of_ofText {text : String} {file : SourceFile}
    (h : SourceFile.ofText text = .ok file) :
    ∃ tokens, SourceText.tokens text = .ok tokens ∧ Grammar.file tokens = .ok file := by
  have hbind : (SourceText.tokens text >>= Grammar.file) = .ok file := h
  cases htokens : SourceText.tokens text with
  | error problem => simp [htokens, bind, Except.bind] at hbind
  | ok tokens => exact ⟨tokens, rfl, by simpa [htokens, bind, Except.bind] using hbind⟩

/-- The items of a text are spelled. -/
theorem SourceFile.spelledAll_ofText {text : String} {file : SourceFile}
    (h : SourceFile.ofText text = .ok file) : Item.SpelledAll file := by
  obtain ⟨tokens, htokens, hfile⟩ := SourceFile.exists_tokens_of_ofText h
  exact Grammar.spelledAll_of_file (TokenStream.spelled_ofChars htokens) hfile

/-! ### Names of wrappers -/

namespace WrapperOptions

open ValuedEnum.Parser

/-- The text of a literal is a name only if it is an identifier. -/
theorem isIdentifier_of_nameOf {lit : Lit} {content suffix : List Char} {ident : Ident}
    (h : nameOf lit content suffix = .ok ident) : ident.IsIdentifier := by
  unfold nameOf at h
  split at h
  · simp at h
  · rename_i tokens htokens
    have hspelled : TokenStream.Spelled (TokenTree.withSpanAll lit.span tokens) :=
      TokenTree.spelledAll_withSpanAll.mpr (TokenStream.spelled_ofChars htokens)
    split at h
    · simp at h
    · rename_i name hname
      split at h
      · obtain rfl : name = ident := by simpa using h
        exact ensures_name.of_run hspelled hname
      · simp at h

/-- The name of a wrapper is an identifier, also if it is given as a text. -/
theorem ensures_nameParser : nameParser.Ensures Ident.IsIdentifier := by
  unfold nameParser
  refine Keeps.bind _ fun seen => ensures_ite (Keeps.bind _ fun lit => ?_) ensures_name
  split
  · rename_i content suffix _
    cases hname : nameOf lit content suffix with
    | error problem => exact (fails_throw problem).ensures _
    | ok ident => exact ensures_pure (isIdentifier_of_nameOf hname)
  · exact (fails_expected _).ensures _

instance : Quiet boolParser := by
  refine quiet_remaining fun tokens => ?_
  split
  · rename_i lit rest hlit
    split
    · have hrest := TokenStream.passes_of_lit? hlit
      exact passesFrom_advance_bind hrest lit.headless_tokens fun _ => inferInstance
    · exact Quiet.passesFrom _ _
  · exact Quiet.passesFrom _ _

instance (limit : Nat) (flags : Flags) : Keeps (flagsParser limit flags) := by
  induction limit generalizing flags with
  | zero =>
    unfold flagsParser
    infer_instance
  | succ limit ih =>
    unfold flagsParser
    refine ⟨Keeps.bind _ fun ended => ensures_ite Keeps.keeps (Keeps.bind _ fun comma => ?_)⟩
    refine Keeps.bind _ fun ended => ensures_ite Keeps.keeps (Keeps.bind _ fun key => ?_)
    refine Keeps.bind _ fun equals => Keeps.bind _ fun value => ?_
    split
    · exact Keeps.keeps
    · exact (fails_throw _).ensures _

/-- The name that options give to a wrapper is an identifier. -/
theorem isIdentifier_of_ofTokens {scope : Scope} {tokens : TokenStream} (htokens : tokens.Spelled)
    {options : WrapperOptions} (h : ofTokens scope tokens = .ok options) :
    options.name.IsIdentifier := by
  have hparser : parser.Ensures fun options => options.name.IsIdentifier := by
    unfold parser
    refine Keeps.bind _ fun ended => ?_
    extract_lets read
    have hread (start : Unit) : (read start).Ensures fun options => options.name.IsIdentifier := by
      refine ensures_nameParser.bind fun name hname => ?_
      exact Keeps.bind _ fun rest => Keeps.bind _ fun flags => ensures_pure hname
    refine ensures_ite ?_ (hread ())
    exact Keeps.bind _ fun place => Keeps.bind _ fun start => hread start
  exact hparser.of_run htokens h

end WrapperOptions

namespace Host

/-- A host that names wrappers by words, which are identifiers if those of the source are. -/
def NamesWrappers (host : Host) : Prop :=
  ∀ item options, item.Spelled → host.wrapperOptions item = .ok (some (.ok options)) →
    options.name.IsIdentifier

/-- The host that reads attributes does so. -/
theorem namesWrappers_ofSchema (schema : Schema) : (ofSchema schema).NamesWrappers := by
  intro item options hitem hoptions
  have hfind : (item.attributes.find? schema.isWrapper).map
      (fun attr => attributeArguments attr WrapperOptions.ofTokens) = some (.ok options) := by
    simpa [ofSchema] using hoptions
  obtain ⟨attr, hattr, hread⟩ := Option.map_eq_some_iff.mp hfind
  have hspelled : attr.body.Spelled := hitem.attributes attr (List.mem_of_find?_eq_some hattr)
  unfold attributeArguments at hread
  split at hread
  · simp at hread
  · simp at hread
  · rename_i content span hbody
    rw [hbody] at hspelled
    exact WrapperOptions.isIdentifier_of_ofTokens hspelled hread

end Host

end ValuedEnum
