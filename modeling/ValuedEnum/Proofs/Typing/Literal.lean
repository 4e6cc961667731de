import ValuedEnum.Grammar
import ValuedEnum.Proofs.Typing.Number
import ValuedEnum.Proofs.Values

/-!
# The types of literals

Which literals the language has, and the type of each: a number has the type of its suffix, and the
preset one without a suffix. Every literal is accepted with this type, and a number of a signed type
behind a minus sign, too. There is one exception: decimal digits with the suffix of a float have its
type, but they are read as an integer, and the suffix is refused.
-/

namespace ValuedEnum

namespace Form

/-- The literals of the language with the types that they have. -/
inductive HasType : List Char → ValueType → Prop
  | string {body : List Char} (hbody : Body .text body) : HasType (cooked body) .string
  | rawString {fence body : List Char} (hfence : IsFence fence) (hbody : RawBody .text fence body) :
      HasType ('r' :: raw fence body) .string
  | byteString {body : List Char} (hbody : Body .bytes body) :
      HasType ('b' :: cooked body) .byteString
  | rawByteString {fence body : List Char} (hfence : IsFence fence)
      (hbody : RawBody .bytes fence body) : HasType ('b' :: 'r' :: raw fence body) .byteString
  | character {content : List Char} (hcontent : Single .text content) :
      HasType (single content) .char
  | byte {content : List Char} (hcontent : Single .bytes content) :
      HasType ('b' :: single content) (.integer .u8)
  | truth : HasType ['t', 'r', 'u', 'e'] .bool
  | falsehood : HasType ['f', 'a', 'l', 's', 'e'] .bool
  | integer {digits suffix : List Char} {type : IntegerType} (hdigits : Integer digits)
      (hsuffix : IntegerSuffix suffix type) : HasType (digits ++ suffix) (.integer type)
  | float {digits suffix : List Char} {type : FloatType} (hdigits : Form.Float digits)
      (hsuffix : FloatSuffix suffix type) : HasType (digits ++ suffix) (.float type)
  /-- A point may end a float, without a suffix. -/
  | pointed {digits : List Char} (hdigits : IsDecimal digits) :
      HasType (digits ++ ['.']) (.float .f64)
  /-- The suffix alone makes a float. -/
  | whole {digits : List Char} (hdigits : IsDecimal digits) (type : FloatType) :
      HasType (digits ++ type.name.toList) (.float type)

/-- Decimal digits that only a suffix makes a float of. -/
def IsWholeFloat (text : List Char) : Prop :=
  ∃ digits, ∃ type : FloatType, IsDecimal digits ∧ text = digits ++ type.name.toList

/-- Such a text is made of digits, gaps and the letter of its suffix. -/
theorem IsWholeFloat.all {text : List Char} (h : IsWholeFloat text) :
    ∀ c ∈ text, c.isDigit = true ∨ c = '_' ∨ c = 'f' := by
  obtain ⟨digits, type, hdigits, rfl⟩ := h
  intro c hc
  rcases List.mem_append.mp hc with hc | hc
  · exact (hdigits.all c hc).imp id .inl
  · have hname : ∀ c ∈ type.name.toList, c.isDigit = true ∨ c = '_' ∨ c = 'f' := by
      cases type <;> simp [FloatType.name]
    exact hname c hc

/-- An integer starts with a digit. -/
theorem Integer.exists_front {digits : List Char} (h : Integer digits) :
    ∃ first rest, digits = first :: rest ∧ first.isDigit = true := by
  cases h with
  | decimal h =>
    obtain ⟨first, rest, rfl, hfirst, _⟩ := h
    exact ⟨first, rest, rfl, hfirst⟩
  | @based radix digits => exact ⟨'0', radix.mark :: digits, rfl, by decide⟩

/-- A float starts with a digit. -/
theorem Float.exists_front {digits : List Char} (h : Form.Float digits) :
    ∃ first rest, digits = first :: rest ∧ first.isDigit = true := by
  have hfront {whole : List Char} (hwhole : IsDecimal whole) (more : List Char) :
      ∃ first rest, whole ++ more = first :: rest ∧ first.isDigit = true := by
    obtain ⟨first, rest, rfl, hfirst, _⟩ := hwhole
    exact ⟨first, rest ++ more, rfl, hfirst⟩
  cases h with
  | fraction hwhole => exact hfront hwhole _
  | exponent hwhole => exact hfront hwhole _
  | fractionExponent hwhole => exact hfront hwhole _

end Form

namespace LitKind

open Form Lexer

/-- A text that starts with a digit has the kind of the number that it is read as. -/
theorem ofText_of_number? {digits suffix : List Char} {kind : LitKind}
    (hfront : ∃ first rest, digits = first :: rest ∧ first.isDigit = true)
    (h : number? (digits ++ suffix) = some kind) : ofText (digits ++ suffix) = kind := by
  obtain ⟨first, rest, rfl, hfirst⟩ := hfront
  rw [List.cons_append] at h ⊢
  rw [ofText_of_front hfirst, h, Option.getD_some]

/-- The kind of a literal in double quotes is the one of its front, and only a string keeps a
suffix. -/
theorem ofText_of_quoted? {text : List Char} {read : Quoted} (htrue : text ≠ ['t', 'r', 'u', 'e'])
    (hfalse : text ≠ ['f', 'a', 'l', 's', 'e']) (h : quoted? text = some read) :
    ofText text =
      match read.kind with
      | .text => .string read.content (text.drop read.length)
      | .bytes => .byteString
      | .cText => .cString := by
  obtain ⟨kind, length, content⟩ := read
  simp only [ofText, if_neg htrue, if_neg hfalse, h]
  cases kind <;> rfl

/-- A literal in single quotes is a byte or a character. -/
theorem ofText_of_single? {text : List Char} {kind : QuotedKind} {length : Nat}
    (htrue : text ≠ ['t', 'r', 'u', 'e']) (hfalse : text ≠ ['f', 'a', 'l', 's', 'e'])
    (hquoted : quoted? text = none) (h : single? text = some (kind, length)) :
    ofText text = if kind = .bytes then .byte else .char := by
  simp only [ofText, if_neg htrue, if_neg hfalse, hquoted, h]
  cases kind <;> rfl

/-- The kinds of literal that have a type, apart from the suffixes of numbers. -/
inductive Presents : LitKind → ValueType → Prop
  | string (content suffix : List Char) : Presents (.string content suffix) .string
  | byteString : Presents .byteString .byteString
  | byte : Presents .byte (.integer .u8)
  | char : Presents .char .char
  | bool (value : Bool) : Presents (.bool value) .bool
  | integer (value : Nat) {suffix : List Char} {type : IntegerType}
      (h : IntegerSuffix suffix type) : Presents (.integer value suffix) (.integer type)
  | float {suffix : List Char} {type : FloatType} (h : FloatSuffix suffix type) :
      Presents (.float suffix) (.float type)

/-- Every literal of the language is read as a kind that has its type, apart from the exception. -/
theorem presents_of_hasType {text : List Char} {type : ValueType} (h : HasType text type)
    (hwhole : ¬ IsWholeFloat text) : Presents (ofText text) type := by
  -- One case for each form of literal. The reader takes it as a whole, and no suffix is left over.
  cases h with
  | @string body hbody =>
    obtain ⟨content, hcontent⟩ := quoted?_string hbody
    rw [ofText_of_quoted? (by simp [cooked]) (by simp [cooked]) hcontent]
    exact .string content _
  | @rawString fence body hfence hbody =>
    obtain ⟨content, hcontent⟩ := quoted?_rawString hfence hbody
    rw [ofText_of_quoted? (by simp) (by simp) hcontent]
    exact .string content _
  | @byteString body hbody =>
    obtain ⟨content, hcontent⟩ := quoted?_byteString hbody
    rw [ofText_of_quoted? (by simp) (by simp) hcontent]
    exact .byteString
  | @rawByteString fence body hfence hbody =>
    obtain ⟨content, hcontent⟩ := quoted?_rawByteString hfence hbody
    rw [ofText_of_quoted? (by simp) (by simp) hcontent]
    exact .byteString
  | @character content hcontent =>
    obtain ⟨hquoted, hsingle⟩ := single?_character hcontent
    rw [ofText_of_single? (by simp [single]) (by simp [single]) hquoted hsingle]
    exact .char
  | @byte content hcontent =>
    obtain ⟨hquoted, hsingle⟩ := single?_byte hcontent
    rw [ofText_of_single? (by simp) (by simp) hquoted hsingle]
    exact .byte
  | truth => exact .bool true
  | falsehood => exact .bool false
  | @integer digits suffix type hdigits hsuffix =>
    obtain ⟨value, hvalue⟩ := hdigits.exists_denotes
    rw [ofText_of_number? hdigits.exists_front (number?_of_denotes hvalue hsuffix)]
    exact .integer value hsuffix
  | @float digits suffix type hdigits hsuffix =>
    rw [ofText_of_number? hdigits.exists_front (number?_of_float hdigits hsuffix)]
    exact .float hsuffix
  | @pointed digits hdigits =>
    have hfront := (Integer.decimal hdigits).exists_front
    rw [ofText_of_number? hfront (number?_of_pointed hdigits)]
    exact .float .none
  | @whole digits hdigits type => exact absurd ⟨digits, type, hdigits, rfl⟩ hwhole

/-- A float that only its suffix makes one is read as an integer. -/
theorem ofText_of_isWholeFloat {text : List Char} (h : IsWholeFloat text) :
    ∃ value, ∃ type : FloatType, ofText text = .integer value type.name.toList := by
  obtain ⟨digits, type, hdigits, rfl⟩ := h
  obtain ⟨value, hvalue⟩ := number?_of_floatName hdigits type
  exact ⟨value, type, ofText_of_number? (Integer.decimal hdigits).exists_front hvalue⟩

end LitKind

namespace ValueType

open Form

/-- The types of numbers that can be negative. -/
def isSigned : ValueType → Bool
  | integer .i8 | integer .i16 | integer .i32 | integer .i64 | integer .i128 | integer .isize => true
  | float _ => true
  | _ => false

/-- A signed type is not unsigned. -/
theorem not_isUnsigned_of_isSigned {type : ValueType} (h : type.isSigned = true) :
    type.isUnsigned = false := by
  cases type with
  | integer type => cases type <;> simp_all [isSigned, isUnsigned, IntegerType.isUnsigned]
  | _ => rfl

/-- The type of an integer is the one that its suffix names, and `i32` without one. -/
theorem ofSuffix_integer {suffix : List Char} {type : IntegerType} (h : IntegerSuffix suffix type)
    (fault : Problem) :
    ofSuffix suffix (integer .i32) (fun text => (IntegerType.ofName? text).map integer) fault =
      .ok (integer type) := by
  cases h with
  | none => rfl
  | name type => cases type <;> rfl

/-- The type of a float is the one that its suffix names, and `f64` without one. -/
theorem ofSuffix_float {suffix : List Char} {type : FloatType} (h : FloatSuffix suffix type)
    (fault : Problem) :
    ofSuffix suffix (float .f64) (fun text => (FloatType.ofName? text).map float) fault =
      .ok (float type) := by
  cases h with
  | none => rfl
  | name type => cases type <;> rfl

/-- No type of integers has the name of a float type. -/
theorem ofSuffix_floatName (type : FloatType) (fault : Problem) :
    ofSuffix type.name.toList (integer .i32)
      (fun text => (IntegerType.ofName? text).map integer) fault = .error fault := by
  cases type <;> rfl

/-- A literal of a kind that has a type is given this type. -/
theorem ofLit_of_presents {lit : Lit} {type : ValueType} (h : LitKind.Presents lit.kind type) :
    ofLit lit = .ok type := by
  unfold ofLit
  generalize lit.kind = kind at h
  cases h with
  | integer value hsuffix => exact ofSuffix_integer hsuffix _
  | float hsuffix => exact ofSuffix_float hsuffix _
  | _ => rfl

/-- A literal of a signed type is a number, so it may stand behind a minus sign. -/
theorem isNumber_of_presents {lit : Lit} {type : ValueType} (h : LitKind.Presents lit.kind type)
    (hsigned : type.isSigned = true) : lit.isNumber = true := by
  unfold Lit.isNumber
  generalize lit.kind = kind at h
  cases h with
  | integer => rfl
  | float => rfl
  | _ => simp [isSigned] at hsigned

end ValueType

namespace Value

open Form

/-- A literal behind a minus sign, with attributes on both sides of it. -/
def negated (outer inner : TokenStream) (sign : Span) (lit : Lit) : Expr :=
  .unary outer '-' sign (.literal inner lit)

/-- A literal with a type is accepted as a value of this type. -/
theorem ofExpr_literal {lit : Lit} {type : ValueType} (h : ValueType.ofLit lit = .ok type)
    (attributes : TokenStream) : ofExpr (.literal attributes lit) = .ok ⟨type, false, lit⟩ :=
  ofExpr_of_denotes (.literal attributes h)

/-- A number behind a minus sign is accepted, unless its type is unsigned. -/
theorem ofExpr_negated {lit : Lit} {type : ValueType} (hnumber : lit.isNumber = true)
    (h : ValueType.ofLit lit = .ok type) (hsigned : type.isUnsigned = false)
    (outer inner : TokenStream) (sign : Span) :
    ofExpr (negated outer inner sign lit) = .ok ⟨type, true, lit⟩ :=
  ofExpr_of_denotes (.negated outer inner sign hnumber h hsigned)

/-- A literal without a type has no value, with a sign or without. -/
theorem ofExpr_of_refused {lit : Lit} {problem : Problem} (hnumber : lit.isNumber = true)
    (h : ValueType.ofLit lit = .error problem) (outer inner : TokenStream) (sign : Span) :
    ofExpr (.literal inner lit) = .error problem ∧
      ofExpr (negated outer inner sign lit) = .error problem := by
  constructor
  · simp [ofExpr, h, bind, Except.bind]
  · simp [negated, ofExpr, hnumber, h, bind, Except.bind]

/-- Every literal is accepted with its type, and behind a minus sign if that type is signed. Decimal
digits that only a suffix makes a float of are the exception: their suffix is refused. -/
theorem ofExpr_of_hasType {lit : Lit} {type : ValueType} (h : HasType lit.text.toList type)
    (outer inner : TokenStream) (sign : Span) :
    (¬ IsWholeFloat lit.text.toList →
      ofExpr (.literal inner lit) = .ok ⟨type, false, lit⟩ ∧
        (type.isSigned = true →
          ofExpr (negated outer inner sign lit) = .ok ⟨type, true, lit⟩)) ∧
      (IsWholeFloat lit.text.toList →
        ofExpr (.literal inner lit) = .error ⟨.notAnIntegerSuffix, lit.span⟩ ∧
          ofExpr (negated outer inner sign lit) = .error ⟨.notAnIntegerSuffix, lit.span⟩) := by
  constructor
  · intro hwhole
    have hpresents : LitKind.Presents lit.kind type := LitKind.presents_of_hasType h hwhole
    have htype := ValueType.ofLit_of_presents hpresents
    refine ⟨ofExpr_literal htype inner, ?_⟩
    intro hsigned
    have hnumber := ValueType.isNumber_of_presents hpresents hsigned
    have hunsigned := ValueType.not_isUnsigned_of_isSigned hsigned
    exact ofExpr_negated hnumber htype hunsigned outer inner sign
  · intro hwhole
    obtain ⟨value, float, hkind⟩ := LitKind.ofText_of_isWholeFloat hwhole
    have hinteger : lit.kind = .integer value float.name.toList := hkind
    have hnumber : lit.isNumber = true := by simp [Lit.isNumber, hinteger]
    have hrefused : ValueType.ofLit lit = .error ⟨.notAnIntegerSuffix, lit.span⟩ := by
      simp only [ValueType.ofLit, hinteger]
      exact ValueType.ofSuffix_floatName float _
    exact ofExpr_of_refused hnumber hrefused outer inner sign

/-- A float with gaps, a sign in its exponent and a suffix. -/
def gappedFloat : Lit := ⟨"1_0.5E+_3f32", .nowhere⟩

/-- A float that has its suffix alone. -/
def wholeFloat : Lit := ⟨"1_f32", .nowhere⟩

/-- The first example is a literal of the type that its suffix names. -/
theorem hasType_gappedFloat : HasType gappedFloat.text.toList (.float .f32) := by
  have hwhole : IsDecimal ['1', '_', '0'] := ⟨'1', ['_', '0'], rfl, by decide, by simp⟩
  have hfraction : IsDecimal ['5'] := ⟨'5', [], rfl, by decide, by simp⟩
  have hexponent : Exponent ('E' :: (['+'] ++ ['_', '3'])) :=
    .mk (.inr rfl) (.inr (.inl rfl)) (by simp) ⟨'3', by decide, by decide⟩
  have hdigits := Form.Float.fractionExponent hwhole hfraction hexponent
  exact HasType.float hdigits (.name .f32)

/-- The digits of the second example are decimal. -/
theorem isDecimal_wholeFloat : IsDecimal ['1', '_'] := ⟨'1', ['_'], rfl, by decide, by simp⟩

/-- The suffix behind an exponent is accepted, and the one directly behind the digits is not. -/
theorem ofExpr_of_gappedFloat :
    HasType gappedFloat.text.toList (.float .f32) ∧
      HasType wholeFloat.text.toList (.float .f32) ∧
      ofExpr (.literal [] gappedFloat) = .ok ⟨.float .f32, false, gappedFloat⟩ ∧
      ofExpr (negated [] [] .nowhere gappedFloat) = .ok ⟨.float .f32, true, gappedFloat⟩ ∧
      ofExpr (.literal [] wholeFloat) = .error ⟨.notAnIntegerSuffix, .nowhere⟩ := by
  have hgapped : ¬ IsWholeFloat gappedFloat.text.toList := by
    intro hwhole
    have hpoint := hwhole.all '.' (by decide)
    simp at hpoint
  have hwhole : IsWholeFloat wholeFloat.text.toList := ⟨['1', '_'], .f32, isDecimal_wholeFloat, rfl⟩
  have htype : HasType wholeFloat.text.toList (.float .f32) := .whole isDecimal_wholeFloat .f32
  obtain ⟨haccepted, _⟩ := ofExpr_of_hasType hasType_gappedFloat [] [] .nowhere
  obtain ⟨_, hrefused⟩ := ofExpr_of_hasType htype [] [] .nowhere
  obtain ⟨hplain, hnegated⟩ := haccepted hgapped
  exact ⟨hasType_gappedFloat, htype, hplain, hnegated rfl, (hrefused hwhole).1⟩

/-- The language has a literal with the type of a float that has no value. -/
theorem exists_refused_float :
    Grammar.expr .whole [.literal "1f32" .nowhere] = .ok (.literal [] ⟨"1f32", .nowhere⟩) ∧
      HasType ['1', 'f', '3', '2'] (.float .f32) ∧
      ofExpr (.literal [] ⟨"1f32", .nowhere⟩) = .error ⟨.notAnIntegerSuffix, .nowhere⟩ := by
  have hone : IsDecimal ['1'] := ⟨'1', [], rfl, by decide, by simp⟩
  exact ⟨by rfl, .whole hone .f32, by rfl⟩

end Value

end ValuedEnum
