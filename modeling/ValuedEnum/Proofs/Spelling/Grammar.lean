import ValuedEnum.Grammar
import ValuedEnum.Proofs.Spelling.Parser

/-!
# Spelled sources

The rules of the grammar only ever take tokens in front of them. From spelled tokens they read
spelled items: modules are named by identifiers, and the arguments of attributes are spelled.
-/

namespace ValuedEnum

/-! ### Spelled items -/

/-- A body without words in its arguments that are no identifiers. -/
def AttributeBody.Spelled : AttributeBody → Prop
  | .bare => True
  | .list _ content _ => content.Spelled
  | .assigned .. => True

/-- An attribute with a spelled body. -/
def Attribute.Spelled (attr : Attribute) : Prop := attr.body.Spelled

/-- A variant with a name and attributes that are spelled. -/
structure Variant.Spelled (variant : Variant) : Prop where
  ident : variant.ident.IsIdentifier
  attributes : ∀ attr ∈ variant.attributes, attr.Spelled

/-- An enumeration with a name, attributes and variants that are spelled. -/
structure EnumItem.Spelled (item : EnumItem) : Prop where
  ident : item.ident.IsIdentifier
  attributes : ∀ attr ∈ item.attributes, attr.Spelled
  variants : ∀ variant ∈ item.variants, variant.Spelled

namespace Item

mutual

/-- Whether all modules are named by identifiers, and all enumerations are spelled. -/
def Spelled : Item → Prop
  | .module name items => name.IsIdentifier ∧ SpelledAll items
  | .enumeration item => item.Spelled
  | .other => True

/-- Whether some items are spelled. -/
def SpelledAll : List Item → Prop
  | [] => True
  | item :: rest => item.Spelled ∧ SpelledAll rest

end

/-- Items are spelled if each of them is. -/
theorem spelledAll_iff {items : List Item} : SpelledAll items ↔ ∀ item ∈ items, item.Spelled := by
  induction items with
  | nil => simp [SpelledAll]
  | cons item rest ih => rw [SpelledAll, List.forall_mem_cons, ih]

end Item

open ValuedEnum.Parser Generics

/-! ### The rules of the phrases inside -/

/-- Whether a phrase may be an item that is kept. -/
def Phrase.isItem : Phrase → Bool
  | .item _ => true
  | _ => false

/-- Rules of which only those of items take headings. They read spelled items behind spelled
attributes. -/
class Rules.Keep (rules : Rules) : Prop where
  quiet : ∀ phrase : Phrase, phrase.isItem = false → Quiet (rules.parse phrase)
  keeps : ∀ attributes, Keeps (rules.item attributes)
  item : ∀ attributes : List Attribute, (∀ attr ∈ attributes, attr.Spelled) →
    (rules.item attributes).Ensures Item.Spelled

variable (rules : Rules) [h : rules.Keep]

instance (structs : Bool) : Quiet (rules.expr structs) := h.quiet _ rfl

instance (structs : Bool) : Quiet (rules.operand structs) := h.quiet _ rfl

instance : Quiet rules.bounded := h.quiet _ rfl

instance (left : Expr) (structs : Bool) (least : Precedence) :
    Quiet (rules.continuation left structs least) :=
  h.quiet _ rfl

instance (plus arguments : Bool) : Quiet (rules.type plus arguments) := h.quiet _ rfl

instance : Quiet rules.bound := h.quiet _ rfl

instance : Quiet rules.pattern := h.quiet _ rfl

instance : Quiet rules.block := h.quiet _ rfl

instance (attributes : List Attribute) : Keeps (rules.item attributes) := h.keeps attributes

instance (root : Bool) : Quiet (rules.useTree root) := h.quiet _ rfl

/-! ### The words of the grammar -/

instance : PlainWord "as" := ⟨by decide⟩
instance : PlainWord "async" := ⟨by decide⟩
instance : PlainWord "auto" := ⟨by decide⟩
instance : PlainWord "await" := ⟨by decide⟩
instance : PlainWord "become" := ⟨by decide⟩
instance : PlainWord "box" := ⟨by decide⟩
instance : PlainWord "break" := ⟨by decide⟩
instance : PlainWord "builtin" := ⟨by decide⟩
instance : PlainWord "const" := ⟨by decide⟩
instance : PlainWord "continue" := ⟨by decide⟩
instance : PlainWord "crate" := ⟨by decide⟩
instance : PlainWord "default" := ⟨by decide⟩
instance : PlainWord "dyn" := ⟨by decide⟩
instance : PlainWord "else" := ⟨by decide⟩
instance : PlainWord "extern" := ⟨by decide⟩
instance : PlainWord "fn" := ⟨by decide⟩
instance : PlainWord "for" := ⟨by decide⟩
instance : PlainWord "if" := ⟨by decide⟩
instance : PlainWord "impl" := ⟨by decide⟩
instance : PlainWord "in" := ⟨by decide⟩
instance : PlainWord "let" := ⟨by decide⟩
instance : PlainWord "loop" := ⟨by decide⟩
instance : PlainWord "macro" := ⟨by decide⟩
instance : PlainWord "match" := ⟨by decide⟩
instance : PlainWord "move" := ⟨by decide⟩
instance : PlainWord "mut" := ⟨by decide⟩
instance : PlainWord "pub" := ⟨by decide⟩
instance : PlainWord "raw" := ⟨by decide⟩
instance : PlainWord "ref" := ⟨by decide⟩
instance : PlainWord "return" := ⟨by decide⟩
instance : PlainWord "safe" := ⟨by decide⟩
instance : PlainWord "self" := ⟨by decide⟩
instance : PlainWord "Self" := ⟨by decide⟩
instance : PlainWord "static" := ⟨by decide⟩
instance : PlainWord "struct" := ⟨by decide⟩
instance : PlainWord "super" := ⟨by decide⟩
instance : PlainWord "trait" := ⟨by decide⟩
instance : PlainWord "try" := ⟨by decide⟩
instance : PlainWord "type" := ⟨by decide⟩
instance : PlainWord "union" := ⟨by decide⟩
instance : PlainWord "unsafe" := ⟨by decide⟩
instance : PlainWord "use" := ⟨by decide⟩
instance : PlainWord "where" := ⟨by decide⟩
instance : PlainWord "while" := ⟨by decide⟩
instance : PlainWord "yield" := ⟨by decide⟩

/-!
### The rules one by one

A rule takes no heading because its parts do not. Only where a rule branches on what it has read, or
takes a word of which it knows no more than that it comes next, are its branches looked at one by
one.
-/

-- The parsers of items are long, and an instance is found for each step of one.
set_option synthInstance.maxSize 1000000

namespace Path

instance (bound : Nat) : Quiet (segmentsParser bound) := by
  induction bound with
  | zero => unfold segmentsParser; infer_instance
  | succ bound ih =>
    unfold segmentsParser segmentStarts
    refine quiet_seesAny ?_ (inferInstanceAs (Quiet (pure [])))
    simp only [Bool.not_true, Bool.false_eq_true, if_false]
    refine ⟨passesFrom_anyWord.bind fun ident => Quiet.bind _ fun more => ?_⟩
    split
    · refine Quiet.bind _ fun _ => Quiet.bind _ fun rest => ?_
      split <;> infer_instance
    · infer_instance

instance : Quiet parser := by
  unfold parser
  extract_lets behind
  have hbehind (leading : Option Span) : Quiet (behind leading) := by
    refine Quiet.bind _ fun tokens => Quiet.bind _ fun segments => ?_
    split <;> infer_instance
  infer_instance

end Path

namespace Visibility

instance : Quiet restriction? := by
  unfold restriction?
  have hbehind (tried : Option (Bool × Span)) : Quiet (match tried with
      | some (true, _) => do
        let (visibility, _) ← delimited .parenthesis do
          let marked ← accept (.word "in")
          let path ← if marked then Path.parser else pure ⟨none, ← anyWord, []⟩
          return inside marked path
        return some visibility
      | _ => return none) := by
    split <;> infer_instance
  infer_instance

instance : Quiet parser := by
  unfold parser
  refine quiet_remaining fun tokens => ?_
  split
  · rename_i span rest
    have hgroup : TokenStream.group? .invisible (.group .invisible [] span :: rest) =
        some ([], span, rest) := by rfl
    exact passesFrom_advance_bind (.group hgroup (.done rest)) .nil fun _ => inferInstance
  · exact Quiet.passesFrom _ _

end Visibility

namespace Attribute

instance : Quiet pathParser := by unfold pathParser; infer_instance

instance : Quiet (valueParser rules) := by unfold valueParser; infer_instance

/-- The arguments of an attribute are spelled. -/
theorem ensures_bodyParser : (bodyParser rules).Ensures AttributeBody.Spelled := by
  unfold bodyParser
  refine Keeps.bind _ fun grouped => ensures_ite ?_ (Keeps.bind _ fun assigned => ?_)
  · exact ensures_verbatimGroup.bind fun group hgroup => ensures_pure hgroup
  · refine ensures_ite (Keeps.bind _ fun equals => Keeps.bind _ fun value => ?_) ?_
    · exact ensures_pure trivial
    · exact ensures_pure trivial

/-- What stands between the brackets of an attribute is spelled. -/
theorem ensures_contentParser :
    (contentParser rules).Ensures fun content => content.2.Spelled := by
  unfold contentParser
  refine Keeps.bind _ fun path => ?_
  exact (ensures_bodyParser rules).bind fun body hbody => ensures_pure hbody

instance : Keeps (contentParser rules) := (ensures_contentParser rules).keeps

/-- An attribute is spelled. -/
theorem ensures_outerParser : (outerParser rules).Ensures Attribute.Spelled := by
  unfold outerParser
  refine Keeps.bind _ fun pound => ?_
  refine (ensures_delimited (ensures_contentParser rules) .bracket).bind fun read hread => ?_
  exact ensures_pure hread

instance : Quiet (outerParser rules) := by unfold outerParser; infer_instance

/-- All attributes in front of an item are spelled. -/
theorem ensures_outerAll :
    (outerAll rules).Ensures fun attributes => ∀ attr ∈ attributes, attr.Spelled :=
  ensures_whileSeen (ensures_outerParser rules) rules.limit _

instance : Quiet (outerAll rules) := by unfold outerAll; infer_instance

instance : Quiet (skipOuter rules) := by unfold skipOuter; infer_instance

instance : Quiet (skipInner rules) := by unfold skipInner; infer_instance

end Attribute

namespace Generics

instance (piece : Parser Bool) [piece.Quiet] : Quiet (pieces rules piece) := by
  unfold pieces; infer_instance

/-- Commas between pieces are no headings. -/
theorem headless_withCommas {all : List Piece} (h : ∀ piece ∈ all, piece.tokens.Headless)
    (trailing : Bool) : ∀ piece ∈ withCommas trailing all, piece.tokens.Headless := by
  fun_induction withCommas trailing all with
  | case1 => exact h
  | case2 piece =>
    have hpiece := h piece List.mem_cons_self
    cases trailing
    · simpa using hpiece
    · simpa using hpiece.append TokenStream.headless_comma
  | case3 piece rest _ ih =>
    obtain ⟨hpiece, hrest⟩ := List.forall_mem_cons.mp h
    exact List.forall_mem_cons.mpr ⟨hpiece.append TokenStream.headless_comma, ih hrest⟩

/-- Generics in any order hold no heading if their pieces hold none. -/
theorem headless_arranged {all : List Piece} (h : ∀ piece ∈ all, piece.tokens.Headless)
    (trailing : Bool) : (arranged trailing all).Headless := by
  have hall := headless_withCommas h trailing
  have hsome (condition : Piece → Bool) :
      TokenStream.Headless (((withCommas trailing all).filter condition).flatMap Piece.tokens) :=
    .flatMap fun piece hpiece => hall piece (List.mem_filter.mp hpiece).1
  unfold arranged
  refine ((hsome _).append ?_).append (hsome _)
  split
  · exact TokenStream.headless_comma
  · exact .nil

omit h in
/-- What the elements of a list print holds no heading, and neither do the commas between them. -/
theorem tells_pieces (piece : Parser Bool) [piece.Quiet] :
    (pieces rules piece).Tells TokenStream.Headless := by
  unfold pieces
  refine (tells_separated ?_ _ _ _).silent.bind fun read hread =>
    tells_pure (headless_arranged hread read.2)
  exact (tells_captured piece).bind fun _ htokens => tells_pure htokens

instance : Quiet (constant rules) := by unfold constant; infer_instance

instance : Quiet (callArguments rules) := by unfold callArguments; infer_instance

instance : Quiet (lifetimeParameter rules) := by
  unfold lifetimeParameter
  refine Quiet.bind _ fun _ => Quiet.bind _ fun _ => Quiet.bind _ fun seen => ?_
  split
  · exact Quiet.bind_captured _ fun bounds tokens hprint => inferInstance
  · infer_instance

instance : Quiet (quantifier rules) := by unfold quantifier; infer_instance

instance : Quiet (argument rules) := by unfold argument; infer_instance

instance : Quiet (angleArguments rules) := by
  unfold angleArguments
  refine Quiet.bind _ fun _ => Quiet.bind _ fun _ => ?_
  refine Quiet.bind_tells (tells_pieces rules _) fun tokens htokens => ?_
  have hprint := quiet_print htokens
  infer_instance

instance (inExpr : Bool) : Quiet (segment rules inExpr) := by
  unfold segment segmentWords
  infer_instance

instance (inExpr : Bool) (goes : TokenStream → Bool) (limit : Nat) (form : PathForm) :
    Quiet (moreSegments rules inExpr goes limit form) := by
  induction limit generalizing form with
  | zero => unfold moreSegments; infer_instance
  | succ limit ih => unfold moreSegments; infer_instance

instance (inExpr : Bool) : Quiet (plainPath rules inExpr) := by unfold plainPath; infer_instance

instance (form : PathForm) : Quiet (callPath rules form) := by unfold callPath; infer_instance

instance : Quiet (capture rules) := by unfold capture; infer_instance

instance : Quiet (traitBound rules) := by unfold traitBound; infer_instance

instance : Quiet (boundRule rules) := by unfold boundRule; infer_instance

instance (inExpr : Bool) : Quiet (path rules inExpr) := by unfold path; infer_instance

instance (plus : Bool) (start : Span) (fault : String) :
    Quiet (boundSum rules plus start fault) := by
  unfold boundSum; infer_instance

instance : Quiet (typeParameter rules) := by
  unfold typeParameter
  refine Quiet.bind _ fun _ => Quiet.bind _ fun seen => ?_
  extract_lets behind
  have hbehind (start : Unit) : (behind start).Quiet := by infer_instance
  split
  · exact Quiet.bind_captured _ fun bounds tokens hprint => inferInstance
  · infer_instance

instance : Quiet (constantParameter rules) := by unfold constantParameter; infer_instance

instance : Quiet (parameter rules) := by unfold parameter; infer_instance

instance : Quiet (parameters rules) := by
  have hlist : Tells (do
      take (.sign "<")
      let tokens ← pieces rules (parameter rules)
      take (.sign ">")
      return tokens) TokenStream.Headless :=
    .of_next fun _ => (tells_pieces rules _).bind fun tokens htokens =>
      .of_next fun _ => tells_pure htokens
  unfold parameters
  refine Quiet.bind _ fun seen => ?_
  split
  · refine Quiet.bind_tells hlist.silent fun tokens htokens => ?_
    have hprint := quiet_print (TokenStream.headless_angled htokens)
    infer_instance
  · infer_instance

instance : Quiet (constraint rules) := by unfold constraint; infer_instance

instance : Quiet (constraints rules) := by
  unfold constraints
  refine Quiet.bind _ fun seen => ?_
  split
  · exact Quiet.bind_captured _ fun read tokens hprint => inferInstance
  · infer_instance

end Generics

namespace PatternRule

instance : Quiet (alternatives rules) := by unfold alternatives; infer_instance

instance : Quiet (rangeEnd rules) := by unfold rangeEnd; infer_instance

instance : Quiet rangeSign := by unfold rangeSign; infer_instance

instance : Quiet (rangeRest rules) := by unfold rangeRest; infer_instance

instance : Quiet (list rules) := by unfold list; infer_instance

instance : Quiet (field rules) := by unfold field; infer_instance

instance : Quiet (pathPattern rules) := by unfold pathPattern; infer_instance

instance : Quiet (binding rules) := by unfold binding; infer_instance

instance : Quiet (rule rules) := by unfold rule; infer_instance

end PatternRule

namespace ExprRule

instance (form : ExprForm) (parser : Parser Unit) [parser.Quiet] :
    Quiet (compound form parser) := by
  unfold compound; infer_instance

instance (terminals : List Terminal) (form : ExprForm) (parser : Parser Unit)
    [QuietBehind terminals parser] : QuietBehind terminals (compound form parser) := by
  unfold compound; infer_instance

instance (left : Expr) (form : ExprForm) (parser : Parser Unit) [parser.Quiet] :
    Quiet (extended left form parser) := by
  unfold extended; infer_instance

instance : Quiet (attributes rules) := by unfold attributes; infer_instance

instance : Quiet (arguments rules) := by unfold arguments; infer_instance

instance (lit : Lit) : Quiet (index lit) := by
  unfold index
  split <;> infer_instance

instance (span dot : Span) (parts : List (List Char)) : Quiet (indices span dot parts) := by
  fun_induction indices span dot parts with
  | case1 => infer_instance
  | case2 => infer_instance
  | case3 => infer_instance

instance : Quiet member := by unfold member; infer_instance

instance : Quiet (afterDot rules) := by unfold afterDot; infer_instance

instance : Quiet (dotRest rules) := by unfold dotRest; infer_instance

instance (limit : Nat) (left : Expr) : Quiet (trailers rules limit left) := by
  induction limit generalizing left with
  | zero => unfold trailers; infer_instance
  | succ limit ih => unfold trailers; infer_instance

instance : Quiet rangeSign := by unfold rangeSign; infer_instance

instance (structs : Bool) (precedence : Precedence) (limit : Nat) (right : Expr) :
    Quiet (rightOperand.climb rules structs precedence limit right) := by
  induction limit generalizing right with
  | zero => unfold rightOperand.climb; infer_instance
  | succ limit ih => unfold rightOperand.climb; infer_instance

instance (structs : Bool) (precedence : Precedence) :
    Quiet (rightOperand rules structs precedence) := by
  unfold rightOperand; infer_instance

instance (structs closed : Bool) : Quiet (rangeRest rules structs closed) := by
  unfold rangeRest; infer_instance

instance : Quiet castEnd := by
  unfold castEnd
  extract_lets report
  have hreport (kind? : Option String) : Quiet (report kind?) := by
    cases kind? <;> infer_instance
  infer_instance

instance (structs : Bool) (least : Precedence) (limit : Nat) (left : Expr) :
    Quiet (continuationRule rules structs least limit left) := by
  induction limit generalizing left with
  | zero => unfold continuationRule; infer_instance
  | succ limit ih =>
    unfold continuationRule
    refine Quiet.bind _ fun tokens => ?_
    split
    · infer_instance
    · split <;> infer_instance

instance : Quiet (structField rules) := by unfold structField; infer_instance

instance (limit : Nat) : Quiet (structFields rules limit) := by
  induction limit with
  | zero => unfold structFields; infer_instance
  | succ limit ih => unfold structFields; infer_instance

instance (structs : Bool) (form : PathForm) : Quiet (pathRest rules structs form) := by
  unfold pathRest; infer_instance

instance (structs : Bool) : Quiet (pathExpr rules structs) := by unfold pathExpr; infer_instance

instance (structs : Bool) : Quiet (groupExpr rules structs) := by
  unfold groupExpr
  refine Quiet.bind _ fun ⟨inner, span⟩ => ?_
  dsimp only
  split
  · refine Quiet.bind _ fun ⟨form, more⟩ => ?_
    dsimp only
    split <;> infer_instance
  · infer_instance

instance : Quiet (parenthesized rules) := by unfold parenthesized; infer_instance

instance : Quiet (bracketed rules) := by unfold bracketed; infer_instance

instance : Quiet (condition rules) := by unfold condition; infer_instance

instance (limit : Nat) : Quiet (branches rules limit) := by
  induction limit with
  | zero => unfold branches; infer_instance
  | succ limit ih => unfold branches; infer_instance

instance : Quiet (loopExpr rules) := by unfold loopExpr; infer_instance

instance : Quiet (whileExpr rules) := by unfold whileExpr; infer_instance

instance : Quiet (forExpr rules) := by unfold forExpr; infer_instance

instance : Quiet (labeled rules) := by unfold labeled; infer_instance

instance (structs : Bool) : Quiet (letExpr rules structs) := by unfold letExpr; infer_instance

instance (structs : Bool) : Quiet (breakExpr rules structs) := by unfold breakExpr; infer_instance

instance (text : String) [PlainWord text] : Quiet (jump rules text) := by
  unfold jump; infer_instance

instance : Quiet (closureArgument rules) := by unfold closureArgument; infer_instance

instance (structs : Bool) : Quiet (closure rules structs) := by unfold closure; infer_instance

instance : Quiet (arm rules) := by unfold arm; infer_instance

instance : Quiet (matchExpr rules) := by unfold matchExpr; infer_instance

instance : Quiet (blockExpr rules) := by unfold blockExpr; infer_instance

instance : QuietBehind [.word "builtin"] builtin := by unfold builtin; infer_instance

instance (structs : Bool) : Quiet (atom rules structs) := by
  unfold atom
  refine quiet_remaining fun tokens => ?_
  split
  · exact Quiet.passesFrom _ _
  · exact QuietAt.passes

instance (structs : Bool) (front : TokenStream) : Quiet (trailed rules structs front) := by
  unfold trailed
  refine Quiet.bind _ fun first => Quiet.bind _ fun expr => ?_
  split <;> infer_instance

instance (structs : Bool) : Quiet (referenceExpr rules structs) := by
  unfold referenceExpr; infer_instance

instance (structs : Bool) : Quiet (operandRule rules structs) := by
  unfold operandRule
  refine Quiet.bind _ fun front => Quiet.bind _ fun tokens => ?_
  split
  · infer_instance
  · split
    · infer_instance
    · split <;> infer_instance

instance (structs : Bool) : Quiet (rule rules structs) := by unfold rule; infer_instance

instance : Quiet (boundedRule rules) := by
  unfold boundedRule
  refine Quiet.bind _ fun front => Quiet.bind _ fun tokens => ?_
  split <;> infer_instance

end ExprRule

namespace TypeRule

instance : Quiet abi := by unfold abi; infer_instance

instance : Quiet (moreBounds rules) := by unfold moreBounds; infer_instance

instance : Keeps (functionArgument rules) := by unfold functionArgument; infer_instance

instance : Quiet (functionType rules) := by unfold functionType; infer_instance

instance (plus quantified : Bool) : Quiet (pathType rules plus quantified) := by
  unfold pathType; infer_instance

instance : Quiet (parenthesized rules) := by unfold parenthesized; infer_instance

instance (plus : Bool) : Quiet (parenthesizedType rules plus) := by
  unfold parenthesizedType
  extract_lets optional
  have hoptional : optional.Quiet := by
    refine Quiet.bind _ fun tokens => ?_
    split <;> infer_instance
  refine Quiet.bind _ fun summed => Quiet.bind _ fun ⟨inner, span⟩ => ?_
  dsimp only
  split <;> infer_instance

instance : Quiet (bracketed rules) := by unfold bracketed; infer_instance

instance : Quiet (pointer rules) := by unfold pointer; infer_instance

instance : Quiet (reference rules) := by unfold reference; infer_instance

instance (arguments : Bool) : Quiet (grouped rules arguments) := by unfold grouped; infer_instance

instance : Quiet (quantified rules) := by unfold quantified; infer_instance

instance (plus arguments : Bool) : Quiet (rule rules plus arguments) := by
  unfold rule
  refine Quiet.bind _ fun tokens => ?_
  split <;> infer_instance

end TypeRule

namespace ItemRule

instance : Quiet invocation := by unfold invocation; infer_instance

instance : Quiet (letStatement rules) := by unfold letStatement; infer_instance

-- A statement may be an item, so headings may be taken in a block.
instance : Keeps (statement rules) := by
  unfold statement
  refine ⟨Keeps.bind _ fun attributes => Keeps.bind _ fun kind => ?_⟩
  split
  · exact Keeps.keeps
  · refine Keeps.bind _ fun tokens => ensures_ite Keeps.keeps (ensures_ite Keeps.keeps ?_)
    refine Keeps.bind _ fun expr => Keeps.bind _ fun ended => ensures_ite Keeps.keeps ?_
    split
    · exact Keeps.keeps
    · exact Keeps.keeps

instance (limit : Nat) : Keeps (statements rules limit) := by
  induction limit with
  | zero => unfold statements; infer_instance
  | succ limit ih => unfold statements; infer_instance

instance : Quiet (blockRule rules) := by unfold blockRule; infer_instance

instance : Quiet (namedField rules) := by unfold namedField; infer_instance

instance : Quiet (unnamedField rules) := by unfold unnamedField; infer_instance

instance : Quiet (namedFields rules) := by unfold namedFields; infer_instance

instance : Quiet (unnamedFields rules) := by unfold unnamedFields; infer_instance

/-- A variant is spelled. -/
theorem ensures_variant : (variant rules).Ensures Variant.Spelled := by
  unfold variant
  refine (Attribute.ensures_outerAll rules).bind fun attributes hattributes => ?_
  refine Keeps.bind _ fun _ => ensures_name.bind fun ident hident => ?_
  have hspelled (fields : Option TokenTree) (discriminant : Option Discriminant) :
      Variant.Spelled ⟨attributes, ident, fields, discriminant⟩ :=
    ⟨hident, hattributes⟩
  refine Keeps.bind _ fun fields => Keeps.bind _ fun given => ensures_ite ?_ ?_
  · refine Keeps.bind _ fun equals => Keeps.bind _ fun value => Keeps.bind _ fun discriminant => ?_
    exact ensures_pure (hspelled _ _)
  · exact Keeps.bind _ fun discriminant => ensures_pure (hspelled _ _)

instance : Keeps (variant rules) := (ensures_variant rules).keeps

instance (attributes : List Attribute) : Keeps (enumeration rules attributes) := by
  unfold enumeration; infer_instance

/-- An enumeration behind spelled attributes is spelled. -/
theorem ensures_enumeration {attributes : List Attribute}
    (hattributes : ∀ attr ∈ attributes, attr.Spelled) :
    (enumeration rules attributes).Ensures EnumItem.Spelled := by
  unfold enumeration
  refine Keeps.bind _ fun visibility => Keeps.bind _ fun _ => ?_
  refine ensures_name.bind fun ident hident => ?_
  refine Keeps.bind _ fun generics => Keeps.bind _ fun constraints => ?_
  have hvariants := ensures_separated (ensures_variant rules) rules.limit "," List.isEmpty
  refine (ensures_delimited hvariants .brace).bind fun body hbody => ?_
  exact ensures_pure ⟨hident, hattributes, hbody⟩

instance (safe : Bool) : Quiet (functionFront safe) := by unfold functionFront; infer_instance

instance (safe : Bool) : Quiet (startsFunction safe) := by unfold startsFunction; infer_instance

instance : Quiet (receiver rules) := by unfold receiver; infer_instance

instance : Quiet (parameter rules) := by
  unfold parameter
  refine Quiet.bind _ fun _ => Quiet.bind _ fun variadic => ?_
  split
  · infer_instance
  · refine Quiet.bind _ fun receiver => ?_
    split <;> infer_instance

instance (safe : Bool) : Quiet (signature rules safe) := by unfold signature; infer_instance

instance : Quiet (function rules) := by unfold function; infer_instance

instance : Quiet (constantItem rules) := by unfold constantItem; infer_instance

instance : Quiet (staticItem rules) := by unfold staticItem; infer_instance

instance : Quiet (typeItem rules) := by unfold typeItem; infer_instance

instance : Quiet (structItem rules) := by unfold structItem; infer_instance

instance : Quiet (unionItem rules) := by unfold unionItem; infer_instance

instance : Quiet invocationItem := by unfold invocationItem; infer_instance

instance : Quiet invocationMember := by unfold invocationMember; infer_instance

instance : Quiet (member rules) := by
  unfold member
  refine Quiet.bind _ fun _ => Quiet.bind _ fun parsed => ?_
  split <;> infer_instance

instance : Quiet (members rules) := by unfold members; infer_instance

instance : Quiet (traitItem rules) := by unfold traitItem; infer_instance

instance : Quiet (implItem rules) := by unfold implItem; infer_instance

instance : Keeps (foreignItem rules) := by unfold foreignItem; infer_instance

instance : Quiet (foreignModule rules) := by unfold foreignModule; infer_instance

instance : Quiet (externItem rules) := by
  unfold externItem
  refine Quiet.bind _ fun parsed => ?_
  split <;> infer_instance

instance (root : Bool) : Quiet (useTreeRule rules root) := by unfold useTreeRule; infer_instance

instance : Quiet (useItem rules) := by unfold useItem; infer_instance

/-- Items are read behind their attributes, up to the end. -/
theorem ensures_file : (file rules).Ensures Item.SpelledAll := by
  have hitem : Ensures (do rules.item (← Attribute.outerAll rules)) Item.Spelled :=
    (Attribute.ensures_outerAll rules).bind fun attributes hattributes =>
      h.item attributes hattributes
  unfold file
  refine Keeps.bind _ fun _ => ?_
  exact (ensures_untilEnd hitem rules.limit).mono fun _ => Item.spelledAll_iff.mpr

/-- A module is named by an identifier, even if the word is reserved. -/
theorem ensures_moduleItem : (moduleItem rules).Ensures Item.Spelled := by
  unfold moduleItem
  refine Keeps.bind _ fun visibility => Keeps.bind _ fun _ => Keeps.bind _ fun _ => ?_
  refine Keeps.bind _ fun raw => ?_
  extract_lets body
  have hbody (ident : Ident) (hident : ident.IsIdentifier) : (body ident).Ensures Item.Spelled := by
    refine Keeps.bind _ fun ended => ensures_ite (ensures_pure ?_) ?_
    · rw [Item.Spelled]
      exact ⟨hident, Item.spelledAll_iff.mpr (by simp)⟩
    · refine Keeps.bind _ fun braced => ensures_ite ?_ ((fails_expectedAmong _).ensures _)
      -- The body of a module is read like a file.
      refine (ensures_delimited (ensures_file rules) .brace).bind fun read hitems => ?_
      refine ensures_pure ?_
      rw [Item.Spelled]
      exact ⟨hident, hitems⟩
  exact ensures_ite (ensures_anyWord.bind hbody) (ensures_name.bind hbody)

instance : Keeps (moduleItem rules) := (ensures_moduleItem rules).keeps

instance : Keeps declarationItem := by unfold declarationItem; infer_instance

/-- An item behind `unsafe` is spelled. -/
theorem ensures_unsafeItem : (unsafeItem rules).Ensures Item.Spelled := by
  have hother : Item.other.Spelled := by simp [Item.Spelled]
  unfold unsafeItem
  refine Keeps.bind _ fun parsed => ?_
  split
  · exact Keeps.bind _ fun _ => ensures_pure hother
  · refine ensures_ite (Keeps.bind _ fun _ => ensures_pure hother) ?_
    refine ensures_ite (Keeps.bind _ fun _ => ensures_pure hother) ?_
    refine ensures_ite (Keeps.bind _ fun _ => ensures_pure hother) ?_
    refine ensures_ite (ensures_moduleItem rules) ?_
    exact (Fails.of_next fun _ => .of_next fun _ => fails_expectedAmong _).ensures _

instance : Keeps (unsafeItem rules) := (ensures_unsafeItem rules).keeps

/-- An item that is passed over is spelled. -/
theorem ensures_passed (parser : Parser Unit) [parser.Keeps] :
    (passed parser).Ensures Item.Spelled :=
  Keeps.bind parser fun _ => ensures_pure (by simp [Item.Spelled])

instance (parser : Parser Unit) [parser.Keeps] : Keeps (passed parser) :=
  (ensures_passed parser).keeps

instance (attributes : List Attribute) : Keeps (rule rules attributes) := by
  unfold rule
  refine ⟨Keeps.bind _ fun found => ?_⟩
  split
  · exact Keeps.keeps
  · exact Keeps.keeps

/-- Only enumerations and modules have anything in them that must be spelled. -/
theorem ensures_rule {attributes : List Attribute}
    (hattributes : ∀ attr ∈ attributes, attr.Spelled) :
    (rule rules attributes).Ensures Item.Spelled := by
  have henumeration : Ensures (do return .enumeration (← enumeration rules attributes))
      Item.Spelled := by
    refine (ensures_enumeration rules hattributes).bind fun item hitem => ensures_pure ?_
    rwa [Item.Spelled]
  unfold rule
  refine Keeps.bind _ fun found => ?_
  split
  · exact Keeps.bind _ fun _ => ensures_pure (by simp [Item.Spelled])
  · extract_lets first
    refine ensures_ite (ensures_passed _) (ensures_ite (ensures_passed _) ?_)
    refine ensures_ite (ensures_passed _) (ensures_ite (ensures_passed _) ?_)
    refine ensures_ite (ensures_passed _) (ensures_ite (ensures_unsafeItem rules) ?_)
    refine ensures_ite (ensures_moduleItem rules) (ensures_ite (ensures_passed _) ?_)
    refine ensures_ite (ensures_passed _) (ensures_ite henumeration ?_)
    refine ensures_ite (ensures_passed _) (ensures_ite (ensures_passed _) ?_)
    refine ensures_ite (ensures_passed _) (ensures_ite (ensures_passed _) ?_)
    refine ensures_ite (ensures_passed _) (ensures_ite (ensures_passed _) ?_)
    exact (Fails.of_next fun _ => fails_expectedAmong _).ensures _

end ItemRule

/-! ### All phrases -/

namespace Grammar

/-- No phrase but an item takes a heading. -/
theorem quiet_step {phrase : Phrase} (hphrase : phrase.isItem = false) :
    Quiet (step rules phrase) := by
  cases phrase with
  | item attributes => simp [Phrase.isItem] at hphrase
  | _ => unfold step; infer_instance

/-- Only the rules of items take headings, down to any depth. -/
instance (limit depth : Nat) : (Grammar.rules limit depth).Keep := by
  induction depth with
  | zero =>
    unfold Grammar.rules
    exact ⟨fun _ _ => (fails_expectedAmong []).quiet,
      fun _ => ((fails_expectedAmong []).ensures fun _ => True).keeps,
      fun _ _ => (fails_expectedAmong []).ensures _⟩
  | succ depth ih =>
    unfold Grammar.rules
    refine ⟨fun phrase => quiet_step _, fun attributes => ?_, fun attributes => ?_⟩
    · exact inferInstanceAs (Keeps (ItemRule.rule _ attributes))
    · exact ItemRule.ensures_rule _

/-- A file that is read from spelled tokens is spelled. -/
theorem spelledAll_of_file {tokens : TokenStream} (htokens : tokens.Spelled) {file : SourceFile}
    (h : Grammar.file tokens = .ok file) : Item.SpelledAll file := by
  unfold Grammar.file Grammar.read rulesFor at h
  exact (ItemRule.ensures_file _).of_run htokens h

end Grammar

end ValuedEnum
