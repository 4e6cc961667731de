import Mathlib.Data.Nat.Digits.Defs
import Mathlib.Tactic.Ring
import ValuedEnum.Proofs.Decimal
import ValuedEnum.Proofs.Typing.Quoted

/-!
# The forms of numbers

Integers of every base and floats as the language writes them, with gaps and suffixes. The digits
of an integer are read up to the suffix. A point or an exponent makes a float of decimal digits, and
a suffix does not: decimal digits with the suffix of a float are read as an integer.
-/

namespace ValuedEnum

namespace Form

/-- Decimal digits and gaps behind a first digit. -/
def IsDecimal (digits : List Char) : Prop :=
  ∃ first rest, digits = first :: rest ∧ first.isDigit = true ∧
    ∀ c ∈ rest, c.isDigit = true ∨ c = '_'

/-- The bases that are named by a letter. -/
inductive Radix where
  | binary
  | octal
  | hexadecimal
deriving DecidableEq, Repr

namespace Radix

/-- The letter that names a base. -/
def mark : Radix → Char
  | binary => 'b'
  | octal => 'o'
  | hexadecimal => 'x'

/-- The number of digits that a base has. -/
def base : Radix → Nat
  | binary => 2
  | octal => 8
  | hexadecimal => 16

/-- The digits of a base. -/
def digits : Radix → List Char
  | binary => ['0', '1']
  | octal => octalDigits
  | hexadecimal => hexadecimalDigits

end Radix

/-- An integer without its suffix. -/
inductive Integer : List Char → Prop
  | decimal {digits : List Char} (h : IsDecimal digits) : Integer digits
  /-- Gaps may stand anywhere among the digits, and there is a digit. -/
  | based {radix : Radix} {digits : List Char} (h : ∀ c ∈ digits, c ∈ radix.digits ∨ c = '_')
      (hsome : ∃ c ∈ digits, c ≠ '_') : Integer ('0' :: radix.mark :: digits)

/-- The values of some digits, the last one first. Gaps have none. -/
def digitValues (digits : List Char) : List Nat := (digits.filterMap Lexer.hexValue?).reverse

/-- The number that an integer without its suffix stands for. -/
inductive Denotes : List Char → Nat → Prop
  | decimal {digits : List Char} (h : IsDecimal digits) :
      Denotes digits (Nat.ofDigits 10 (digitValues digits))
  | based {radix : Radix} {digits : List Char} (h : ∀ c ∈ digits, c ∈ radix.digits ∨ c = '_')
      (hsome : ∃ c ∈ digits, c ≠ '_') :
      Denotes ('0' :: radix.mark :: digits) (Nat.ofDigits radix.base (digitValues digits))

/-- Every integer stands for a number. -/
theorem Integer.exists_denotes {digits : List Char} (h : Integer digits) :
    ∃ value, Denotes digits value := by
  cases h with
  | decimal h => exact ⟨_, .decimal h⟩
  | based h hsome => exact ⟨_, .based h hsome⟩

/-- What stands for a number is an integer. -/
theorem Denotes.integer {digits : List Char} {value : Nat} (h : Denotes digits value) :
    Integer digits := by
  cases h with
  | decimal h => exact .decimal h
  | based h hsome => exact .based h hsome

/-- The part of a float that starts with its letter; a sign and gaps may stand before the digits. -/
inductive Exponent : List Char → Prop
  | mk {mark : Char} {sign digits : List Char} (hmark : mark = 'e' ∨ mark = 'E')
      (hsign : sign = [] ∨ sign = ['+'] ∨ sign = ['-'])
      (hdigits : ∀ c ∈ digits, c.isDigit = true ∨ c = '_') (hsome : ∃ c ∈ digits, c ≠ '_') :
      Exponent (mark :: (sign ++ digits))

/-- A float without its suffix. Digits stand behind its point. -/
inductive Float : List Char → Prop
  | fraction {whole fraction : List Char} (hwhole : IsDecimal whole)
      (hfraction : IsDecimal fraction) : Float (whole ++ '.' :: fraction)
  | exponent {whole exponent : List Char} (hwhole : IsDecimal whole)
      (hexponent : Exponent exponent) : Float (whole ++ exponent)
  | fractionExponent {whole fraction exponent : List Char} (hwhole : IsDecimal whole)
      (hfraction : IsDecimal fraction) (hexponent : Exponent exponent) :
      Float (whole ++ '.' :: (fraction ++ exponent))

/-- The types of integers with and without a suffix. -/
inductive IntegerSuffix : List Char → IntegerType → Prop
  | none : IntegerSuffix [] .i32
  | name (type : IntegerType) : IntegerSuffix type.name.toList type

/-- The types of floats with and without a suffix. -/
inductive FloatSuffix : List Char → FloatType → Prop
  | none : FloatSuffix [] .f64
  | name (type : FloatType) : FloatSuffix type.name.toList type

/-- Decimal digits are digits and gaps. -/
theorem IsDecimal.all {digits : List Char} (h : IsDecimal digits) :
    ∀ c ∈ digits, c.isDigit = true ∨ c = '_' := by
  obtain ⟨first, rest, rfl, hfirst, hrest⟩ := h
  exact List.forall_mem_cons.mpr ⟨.inl hfirst, hrest⟩

/-- Among decimal digits there is one that is no gap. -/
theorem IsDecimal.exists_digit {digits : List Char} (h : IsDecimal digits) :
    ∃ c ∈ digits, c ≠ '_' := by
  obtain ⟨first, rest, rfl, hfirst, _⟩ := h
  refine ⟨first, List.mem_cons_self, ?_⟩
  rintro rfl
  simp at hfirst

end Form

namespace LitKind

open Form Lexer

/-! ### Integers -/

/-- A character that counts as a digit of a base. -/
def Counts (base : Nat) (c : Char) : Prop :=
  ∃ digit < base, hexValue? c = some digit ∧ (c.isDigit = true ∨ 10 < base)

/-- Decimal digits count in the decimal base. -/
theorem counts_of_isDigit {c : Char} (h : c.isDigit = true) : Counts 10 c := by
  obtain ⟨hvalue, hlt, _⟩ := hexValue?_of_isDigit h
  exact ⟨_, hlt, hvalue, .inl h⟩

/-- Only a hexadecimal digit may be a letter. -/
theorem isDigit_of_mem {radix : Radix} (hradix : radix ≠ .hexadecimal) {c : Char}
    (h : c ∈ radix.digits) : c.isDigit = true := by
  have hall : radix.digits.all Char.isDigit = true := by
    cases radix with
    | binary => decide
    | octal => decide
    | hexadecimal => contradiction
  exact List.all_eq_true.mp hall c h

/-- The digits of a base that is named by a letter count in it. -/
theorem counts_of_mem {radix : Radix} {c : Char} (h : c ∈ radix.digits) : Counts radix.base c := by
  have hall : radix.digits.all (fun c => (hexValue? c).any (· < radix.base)) = true := by
    cases radix <;> decide
  obtain ⟨digit, hvalue, hlt⟩ := (Option.any_eq_true _ _).mp (List.all_eq_true.mp hall c h)
  refine ⟨digit, by simpa using hlt, hvalue, ?_⟩
  by_cases hradix : radix = .hexadecimal
  · subst hradix
    exact .inr (by decide)
  · exact .inl (isDigit_of_mem hradix h)

/-- A digit is none of the characters that a reader treats apart. -/
theorem Counts.plain {base : Nat} {c : Char} (h : Counts base c) :
    c ≠ '_' ∧ (base = 10 → c ≠ '.' ∧ c ≠ 'e' ∧ c ≠ 'E') := by
  obtain ⟨digit, _, hvalue, hdigit⟩ := h
  constructor
  · rintro rfl
    have hnone : hexValue? '_' = none := by decide
    simp [hnone] at hvalue
  · rintro rfl
    have hten : c.isDigit = true := hdigit.resolve_right (by omega)
    obtain ⟨_, _, _, hpoint, hlower, hupper⟩ := hexValue?_of_isDigit hten
    exact ⟨hpoint, hlower, hupper⟩

/-- Where something is no gap, the search for it succeeds. -/
theorem any_ne_gap {digits : List Char} (h : ∃ c ∈ digits, c ≠ '_') :
    digits.any (· != '_') = true := by
  obtain ⟨c, hc, hgap⟩ := h
  exact List.any_eq_true.mpr ⟨c, hc, by simpa using hgap⟩

/-- The search for something that is no gap may end at once. -/
theorem any_cons_of_ne {c : Char} (h : c ≠ '_') (digits : List Char) :
    (c :: digits).any (· != '_') = true :=
  any_ne_gap ⟨c, List.mem_cons_self, h⟩

/-- A digit counts for as much as its place says. -/
theorem ofDigits_digitValues_cons (base : Nat) {c : Char} {digit : Nat}
    (h : hexValue? c = some digit) (digits : List Char) :
    Nat.ofDigits base (digitValues (c :: digits)) =
      digit * base ^ (digitValues digits).length + Nat.ofDigits base (digitValues digits) := by
  have hvalues : digitValues (c :: digits) = digitValues digits ++ [digit] := by
    simp [digitValues, h]
  rw [hvalues, Nat.ofDigits_append, Nat.ofDigits_singleton]
  ring

/-- A digit in front adds one value. -/
theorem length_digitValues_cons {c : Char} {digit : Nat} (h : hexValue? c = some digit)
    (digits : List Char) :
    (digitValues (c :: digits)).length = (digitValues digits).length + 1 := by
  simp [digitValues, h]

/-- The digits of a base are read up to the end, and what follows them is read next. -/
theorem digits?_append {base : Nat} {digits : List Char}
    (h : ∀ c ∈ digits, Counts base c ∨ c = '_') (value : Nat) (seen : Bool) (rest : List Char) :
    digits? base value seen (digits ++ rest) =
      digits? base (value * base ^ (digitValues digits).length +
        Nat.ofDigits base (digitValues digits)) (seen || digits.any (· != '_')) rest := by
  induction digits generalizing value seen with
  | nil => simp [digitValues]
  | cons c digits ih =>
    obtain ⟨hc, hdigits⟩ := List.forall_mem_cons.mp h
    rcases hc with hc | rfl
    · obtain ⟨hgap, hplain⟩ := hc.plain
      obtain ⟨digit, hlt, hvalue, hdigit⟩ := hc
      -- A point or an exponent would end a decimal integer, and neither is a digit.
      have hpoint : ¬ (base = 10 ∧ c = '.') := fun ⟨hbase, hc⟩ => (hplain hbase).1 hc
      have hmark : ¬ (base = 10 ∧ (c = 'e' ∨ c = 'E')) := by
        rintro ⟨hbase, hlower | hupper⟩
        · exact (hplain hbase).2.1 hlower
        · exact (hplain hbase).2.2 hupper
      have hstep : digits? base value seen (c :: digits ++ rest) =
          digits? base (value * base + digit) true (digits ++ rest) := by
        simp [digits?, hgap, hpoint, hmark, hvalue, hdigit, hlt]
      have hplace : value * base ^ (digitValues (c :: digits)).length +
          Nat.ofDigits base (digitValues (c :: digits)) =
          (value * base + digit) * base ^ (digitValues digits).length +
            Nat.ofDigits base (digitValues digits) := by
        rw [length_digitValues_cons hvalue, ofDigits_digitValues_cons base hvalue]
        ring
      rw [hstep, ih hdigits, hplace, any_cons_of_ne hgap, Bool.or_true, Bool.true_or]
    · have hgap : digitValues ('_' :: digits) = digitValues digits := rfl
      rw [hgap]
      simpa [digits?] using ih hdigits value seen

/-- The suffix of an integer belongs to no base. -/
theorem digits?_integerSuffix {suffix : List Char} {type : IntegerType}
    (h : IntegerSuffix suffix type) (base value : Nat) :
    digits? base value true suffix = some (value, true, suffix) := by
  cases h with
  | none => rfl
  | name type => cases type <;> simp [IntegerType.name, digits?, hexValue?]

/-- The letter of a float suffix is a digit, but not of base ten. -/
theorem digits?_floatName (type : FloatType) (value : Nat) :
    digits? 10 value true type.name.toList = some (value, true, type.name.toList) := by
  cases type <;> simp [FloatType.name, digits?, hexValue?]

/-- The suffix of an integer is one that a number may have. -/
theorem isSuffix_of_integerSuffix {suffix : List Char} {type : IntegerType}
    (h : IntegerSuffix suffix type) : isSuffix suffix = true := by
  cases h with
  | none => rfl
  | name type => cases type <;> decide

/-- The name of a float type is a suffix that a number may have. -/
theorem isSuffix_floatName (type : FloatType) : isSuffix type.name.toList = true := by
  cases type <;> decide

/-- What an integer is made of, once its digits are read. -/
def integerOf? : Option (Nat × Bool × List Char) → Option LitKind
  | some (value, true, suffix) => if isSuffix suffix then some (.integer value suffix) else none
  | _ => none

/-- Without the letter of a base, the digits are decimal. -/
theorem integer?_cons {first : Char} {rest : List Char}
    (h : rest.head? ∉ [some 'x', some 'o', some 'b']) :
    integer? (first :: rest) = integerOf? (digits? 10 0 false (first :: rest)) := by
  unfold integer?
  split
  · simp_all
  · simp_all
  · simp_all
  · rfl

/-- Decimal digits are read in the decimal base, unless a letter behind a zero names another one. -/
theorem integer?_decimal {digits rest : List Char} (h : IsDecimal digits)
    (hrest : rest.head? ∉ [some 'x', some 'o', some 'b']) :
    integer? (digits ++ rest) = integerOf? (digits? 10 0 false (digits ++ rest)) := by
  obtain ⟨first, digits, rfl, hfirst, hdigits⟩ := h
  apply integer?_cons
  cases digits with
  | nil => exact hrest
  | cons second digits =>
    rcases hdigits second List.mem_cons_self with hsecond | rfl
    · intro hmem
      simp only [List.append_eq, List.cons_append, List.head?_cons, List.mem_cons,
        Option.some.injEq, List.not_mem_nil, or_false] at hmem
      rcases hmem with rfl | rfl | rfl <;> simp at hsecond
    · simp

/-- Behind decimal digits, what they are read as depends on what follows them. -/
theorem integer?_decimal_append {digits rest : List Char} (h : IsDecimal digits)
    (hrest : rest.head? ∉ [some 'x', some 'o', some 'b']) :
    integer? (digits ++ rest) =
      integerOf? (digits? 10 (Nat.ofDigits 10 (digitValues digits)) true rest) := by
  have hcounts : ∀ c ∈ digits, Counts 10 c ∨ c = '_' := fun c hc =>
    (h.all c hc).imp counts_of_isDigit id
  rw [integer?_decimal h hrest, digits?_append hcounts 0 false rest, any_ne_gap h.exists_digit,
    Bool.or_true, Nat.zero_mul, Nat.zero_add]

/-- The letter behind a zero names the base of the digits behind it. -/
theorem integer?_based {radix : Radix} (text : List Char) :
    integer? ('0' :: radix.mark :: text) = integerOf? (digits? radix.base 0 false text) := by
  cases radix <;> rfl

/-- An integer is read as the number that it stands for, with its suffix. -/
theorem integer?_of_denotes {digits suffix : List Char} {value : Nat} {type : IntegerType}
    (h : Denotes digits value) (hsuffix : IntegerSuffix suffix type) :
    integer? (digits ++ suffix) = some (.integer value suffix) := by
  have hread (value : Nat) : integerOf? (some (value, true, suffix)) =
      some (.integer value suffix) := by
    simp [integerOf?, isSuffix_of_integerSuffix hsuffix]
  cases h with
  | decimal h =>
    have hfront : suffix.head? ∉ [some 'x', some 'o', some 'b'] := by
      cases hsuffix with
      | none => simp
      | name type => cases type <;> decide
    rw [integer?_decimal_append h hfront, digits?_integerSuffix hsuffix, hread]
  | @based radix digits h hsome =>
    have hcounts : ∀ c ∈ digits, Counts radix.base c ∨ c = '_' := fun c hc =>
      (h c hc).imp counts_of_mem id
    rw [List.cons_append, List.cons_append, integer?_based, digits?_append hcounts 0 false suffix,
      any_ne_gap hsome, Bool.or_true, Nat.zero_mul, Nat.zero_add, digits?_integerSuffix hsuffix,
      hread]

/-- Decimal digits with the suffix of a float are read as an integer, too. -/
theorem integer?_of_floatName {digits : List Char} (h : IsDecimal digits) (type : FloatType) :
    ∃ value, integer? (digits ++ type.name.toList) = some (.integer value type.name.toList) := by
  have hfront : type.name.toList.head? ∉ [some 'x', some 'o', some 'b'] := by
    cases type <;> decide
  refine ⟨Nat.ofDigits 10 (digitValues digits), ?_⟩
  rw [integer?_decimal_append h hfront, digits?_floatName]
  simp [integerOf?, isSuffix_floatName]

/-! ### Floats -/

/-- Digits with a point behind them are no integer. -/
theorem integer?_point {digits : List Char} (h : IsDecimal digits) (rest : List Char) :
    integer? (digits ++ '.' :: rest) = none := by
  have hfront : ('.' :: rest).head? ∉ [some 'x', some 'o', some 'b'] := by simp
  rw [integer?_decimal_append h hfront]
  simp [digits?, integerOf?]

/-- Digits may stand in front of the sign of an exponent, and they are remembered. -/
theorem exponentFollows_digits {digits : List Char} (h : ∀ c ∈ digits, c.isDigit = true ∨ c = '_')
    (seen : Bool) (rest : List Char) :
    exponentFollows seen (digits ++ rest) =
      exponentFollows (seen || digits.any (· != '_')) rest := by
  induction digits generalizing seen with
  | nil => simp
  | cons c digits ih =>
    obtain ⟨hc, hdigits⟩ := List.forall_mem_cons.mp h
    rcases hc with hc | rfl
    · obtain ⟨_, _, hgap, _⟩ := hexValue?_of_isDigit hc
      have hsign : ¬ (c = '-' ∨ c = '+') := by
        rintro (rfl | rfl) <;> simp at hc
      rw [any_cons_of_ne hgap, Bool.or_true]
      simp [exponentFollows, hgap, hsign, hc, ih hdigits]
    · simp [exponentFollows, ih hdigits]

/-- The suffix of a float stays a suffix behind an exponent. -/
theorem exponentFollows_floatSuffix {suffix : List Char} {type : FloatType}
    (h : FloatSuffix suffix type) : exponentFollows true suffix = true := by
  cases h with
  | none => rfl
  | name type => cases type <;> decide

/-- Digits with an exponent behind them are no integer. -/
theorem integer?_exponent {digits exponent suffix : List Char} {type : FloatType}
    (h : IsDecimal digits) (hexponent : Exponent exponent) (hsuffix : FloatSuffix suffix type) :
    integer? (digits ++ (exponent ++ suffix)) = none := by
  obtain @⟨mark, sign, count, hmark, hsign, hcount, hsome⟩ := hexponent
  have hfollows : exponentFollows false (sign ++ (count ++ suffix)) = true := by
    rcases hsign with rfl | rfl | rfl
    · rw [List.nil_append, exponentFollows_digits hcount, any_ne_gap hsome]
      exact exponentFollows_floatSuffix hsuffix
    · rfl
    · rfl
  have hfront : (mark :: (sign ++ count) ++ suffix).head? ∉ [some 'x', some 'o', some 'b'] := by
    rcases hmark with rfl | rfl <;> simp
  rw [integer?_decimal_append h hfront]
  rcases hmark with rfl | rfl <;> simp [digits?, integerOf?, hfollows]

/-- Digits and gaps are read; behind the letter of an exponent, they are its digits. -/
theorem floatSuffix?_digits {digits : List Char} (h : ∀ c ∈ digits, c.isDigit = true ∨ c = '_')
    (parts : FloatParts) (rest : List Char) :
    floatSuffix? parts (digits ++ rest) =
      floatSuffix?
        { parts with exponent := parts.exponent || (parts.mark && digits.any (· != '_')) } rest := by
  induction digits generalizing parts with
  | nil => simp
  | cons c digits ih =>
    obtain ⟨hc, hdigits⟩ := List.forall_mem_cons.mp h
    rcases hc with hc | rfl
    · obtain ⟨_, _, hgap, _⟩ := hexValue?_of_isDigit hc
      have hstep : floatSuffix? parts (c :: (digits ++ rest)) =
          floatSuffix? { parts with exponent := parts.exponent || parts.mark } (digits ++ rest) := by
        simp [floatSuffix?, hgap, hc]
      rw [List.cons_append, hstep, ih hdigits, any_cons_of_ne hgap]
      cases parts.mark <;> simp
    · simp [floatSuffix?, ih hdigits]

/-- The suffix of a float is left when its digits are read. -/
theorem floatSuffix?_floatSuffix {suffix : List Char} {type : FloatType}
    (h : FloatSuffix suffix type) {parts : FloatParts}
    (hparts : parts.mark = true → parts.exponent = true) :
    floatSuffix? parts suffix = some suffix := by
  have hopen : (parts.mark && !parts.exponent) = false := by
    cases hmark : parts.mark with
    | false => rfl
    | true => simp [hparts hmark]
  cases h with
  | none => simp [floatSuffix?, hopen]
  | name type => cases type <;> simp [FloatType.name, floatSuffix?, hopen]

/-- Behind gaps, the letter of an exponent is followed by a sign or a digit. -/
theorem exists_head_exponent {sign digits : List Char}
    (hsign : sign = [] ∨ sign = ['+'] ∨ sign = ['-'])
    (hdigits : ∀ c ∈ digits, c.isDigit = true ∨ c = '_') (hsome : ∃ c ∈ digits, c ≠ '_')
    (rest : List Char) :
    ∃ next, ((sign ++ (digits ++ rest)).dropWhile (· = '_')).head? = some next ∧
      (next = '-' ∨ next = '+' ∨ next.isDigit = true) := by
  rcases hsign with rfl | rfl | rfl
  · rw [List.nil_append]
    induction digits with
    | nil =>
      obtain ⟨c, hc, _⟩ := hsome
      simp at hc
    | cons c digits ih =>
      obtain ⟨hc, hrest⟩ := List.forall_mem_cons.mp hdigits
      rcases hc with hc | rfl
      · obtain ⟨_, _, hgap, _⟩ := hexValue?_of_isDigit hc
        exact ⟨c, by simp [hgap], .inr (.inr hc)⟩
      · have hlater : ∃ c ∈ digits, c ≠ '_' := by simpa using hsome
        simpa using ih hrest hlater
  · exact ⟨'+', by simp, by simp⟩
  · exact ⟨'-', by simp, by simp⟩

/-- The letter of an exponent, its sign and its digits are read. -/
theorem floatSuffix?_exponent {exponent : List Char} (h : Exponent exponent) (point : Bool)
    (rest : List Char) :
    ∃ signed, floatSuffix? { point := point } (exponent ++ rest) =
      floatSuffix? { point := point, mark := true, sign := signed, exponent := true } rest := by
  obtain @⟨mark, sign, count, hmark, hsign, hcount, hsome⟩ := h
  obtain ⟨next, hnext, hstarts⟩ := exists_head_exponent hsign hcount hsome rest
  have hmarked : floatSuffix? { point := point } (mark :: (sign ++ count ++ rest)) =
      floatSuffix? { point := point, mark := true } (sign ++ count ++ rest) := by
    have hdigit (hminus : next ≠ '-') (hplus : next ≠ '+') : next.isDigit = true := by
      simpa [hminus, hplus] using hstarts
    rcases hmark with rfl | rfl <;> simp +contextual [floatSuffix?, hnext, hdigit]
  have hdigits (signed : Bool) :
      floatSuffix? { point := point, mark := true, sign := signed } (count ++ rest) =
        floatSuffix? { point := point, mark := true, sign := signed, exponent := true } rest := by
    rw [floatSuffix?_digits hcount, any_ne_gap hsome]
    rfl
  have hsigned : ∃ signed, floatSuffix? { point := point, mark := true } (sign ++ count ++ rest) =
      floatSuffix? { point := point, mark := true, sign := signed } (count ++ rest) := by
    rcases hsign with rfl | rfl | rfl
    · exact ⟨false, rfl⟩
    · exact ⟨true, rfl⟩
    · exact ⟨true, rfl⟩
  obtain ⟨signed, hsigned⟩ := hsigned
  exact ⟨signed, by rw [List.cons_append, hmarked, hsigned, hdigits]⟩

/-- Decimal digits of a float are passed over. -/
theorem floatSuffix?_decimal {digits : List Char} (h : IsDecimal digits) (point : Bool)
    (rest : List Char) :
    floatSuffix? { point := point } (digits ++ rest) = floatSuffix? { point := point } rest := by
  rw [floatSuffix?_digits h.all]
  rfl

/-- The point of a float is passed over once. -/
theorem floatSuffix?_point (rest : List Char) :
    floatSuffix? {} ('.' :: rest) = floatSuffix? { point := true } rest := by
  simp [floatSuffix?]

/-- A float is read with its suffix. -/
theorem floatSuffix?_of_float {digits suffix : List Char} {type : FloatType} (h : Form.Float digits)
    (hsuffix : FloatSuffix suffix type) : floatSuffix? {} (digits ++ suffix) = some suffix := by
  cases h with
  | @fraction whole fraction hwhole hfraction =>
    rw [List.append_assoc, List.cons_append, floatSuffix?_decimal hwhole, floatSuffix?_point,
      floatSuffix?_decimal hfraction, floatSuffix?_floatSuffix hsuffix (by simp)]
  | @exponent whole exponent hwhole hexponent =>
    obtain ⟨signed, hsigned⟩ := floatSuffix?_exponent hexponent false suffix
    rw [List.append_assoc, floatSuffix?_decimal hwhole, hsigned,
      floatSuffix?_floatSuffix hsuffix (by simp)]
  | @fractionExponent whole fraction exponent hwhole hfraction hexponent =>
    obtain ⟨signed, hsigned⟩ := floatSuffix?_exponent hexponent true suffix
    rw [List.append_assoc, List.cons_append, List.append_assoc, floatSuffix?_decimal hwhole,
      floatSuffix?_point, floatSuffix?_decimal hfraction, hsigned,
      floatSuffix?_floatSuffix hsuffix (by simp)]

/-- A float is no integer. -/
theorem integer?_of_float {digits suffix : List Char} {type : FloatType} (h : Form.Float digits)
    (hsuffix : FloatSuffix suffix type) : integer? (digits ++ suffix) = none := by
  cases h with
  | @fraction whole fraction hwhole hfraction =>
    rw [List.append_assoc, List.cons_append]
    exact integer?_point hwhole (fraction ++ suffix)
  | @exponent whole exponent hwhole hexponent =>
    rw [List.append_assoc]
    exact integer?_exponent hwhole hexponent hsuffix
  | @fractionExponent whole fraction exponent hwhole hfraction hexponent =>
    rw [List.append_assoc, List.cons_append]
    exact integer?_point hwhole (fraction ++ exponent ++ suffix)

/-! ### Numbers are read -/

/-- Every integer of the language is read with its number and its suffix. -/
theorem number?_of_denotes {digits suffix : List Char} {value : Nat} {type : IntegerType}
    (h : Denotes digits value) (hsuffix : IntegerSuffix suffix type) :
    number? (digits ++ suffix) = some (.integer value suffix) := by
  simp [number?, integer?_of_denotes h hsuffix]

/-- Decimal digits with the suffix of a float are read as an integer with this suffix. -/
theorem number?_of_floatName {digits : List Char} (h : IsDecimal digits) (type : FloatType) :
    ∃ value, number? (digits ++ type.name.toList) = some (.integer value type.name.toList) := by
  obtain ⟨value, hvalue⟩ := integer?_of_floatName h type
  exact ⟨value, by simp [number?, hvalue]⟩

/-- Every float of the language is read with its suffix. -/
theorem number?_of_float {digits suffix : List Char} {type : FloatType} (h : Form.Float digits)
    (hsuffix : FloatSuffix suffix type) : number? (digits ++ suffix) = some (.float suffix) := by
  have hisSuffix : isSuffix suffix = true := by
    cases hsuffix with
    | none => rfl
    | name type => exact isSuffix_floatName type
  simp [number?, integer?_of_float h hsuffix, float?, floatSuffix?_of_float h hsuffix, hisSuffix]

/-- A point may end a float. -/
theorem number?_of_pointed {digits : List Char} (h : IsDecimal digits) :
    number? (digits ++ ['.']) = some (.float []) := by
  have hread : floatSuffix? {} (digits ++ ['.']) = some [] := by
    rw [floatSuffix?_decimal h, floatSuffix?_point]
    rfl
  simp [number?, integer?_point h, float?, hread, isSuffix]

end LitKind

end ValuedEnum
