import ValuedEnum.Literal.Basic

/-!
# The forms of quoted literals

Strings, byte strings, characters and bytes as the language writes them. The forms say which texts
there are, and not how one is read. This file proves that the reader takes each of them as a whole.
-/

namespace ValuedEnum

namespace Form

open Lexer

/-! ### Escapes -/

/-- The octal digits. -/
def octalDigits : List Char := "01234567".toList

/-- The hexadecimal digits, small and capital. -/
def hexadecimalDigits : List Char := "0123456789abcdefABCDEF".toList

/-- The number that hexadecimal digits with gaps stand for, behind a number that is already read. -/
def codeFrom (value : Nat) (digits : List Char) : Nat :=
  digits.foldl (fun value c => if c = '_' then value else value * 16 + (hexValue? c).getD 0) value

/-- An escape in a text or among bytes, behind its backslash. -/
inductive Escape : QuotedKind → List Char → Prop
  | short {kind : QuotedKind} {c : Char} (hkind : kind ≠ .cText)
      (h : c ∈ ['n', 'r', 't', '\\', '0', '\x27', '\x22']) : Escape kind [c]
  | ascii {high low : Char} (hhigh : high ∈ octalDigits) (hlow : low ∈ hexadecimalDigits) :
      Escape .text ['x', high, low]
  | byte {high low : Char} (hhigh : high ∈ hexadecimalDigits) (hlow : low ∈ hexadecimalDigits) :
      Escape .bytes ['x', high, low]
  /-- One to six digits, and gaps behind the first of them. -/
  | unicode {first : Char} {rest : List Char} (hfirst : first ∈ hexadecimalDigits)
      (hrest : ∀ c ∈ rest, c ∈ hexadecimalDigits ∨ c = '_')
      (hcount : rest.countP (· != '_') < 6) (hvalid : (codeFrom 0 (first :: rest)).isValidChar) :
      Escape .text ('u' :: '\x7b' :: first :: (rest ++ ['\x7d']))

/-! ### Contents -/

/-- What stands between the quotes of a cooked literal. A carriage return belongs to a line end. -/
inductive Body (kind : QuotedKind) : List Char → Prop
  | nil : Body kind []
  | plain {c : Char} {rest : List Char} (hquote : c ≠ '\x22') (hbackslash : c ≠ '\\')
      (hreturn : c ≠ '\r') (hadmits : kind.admits c = true) (hrest : Body kind rest) :
      Body kind (c :: rest)
  | lineEnd {rest : List Char} (hrest : Body kind rest) : Body kind ('\r' :: '\n' :: rest)
  | escape {escape rest : List Char} (hescape : Escape kind escape) (hrest : Body kind rest) :
      Body kind ('\\' :: escape ++ rest)
  | continued {rest : List Char} (hrest : Body kind rest) : Body kind ('\\' :: '\n' :: rest)
  | continuedLineEnd {rest : List Char} (hrest : Body kind rest) :
      Body kind ('\\' :: '\r' :: '\n' :: rest)

/-- What stands between the quotes of a raw literal: no quote in it is followed by the fence. -/
inductive RawBody (kind : QuotedKind) (fence : List Char) : List Char → Prop
  | nil : RawBody kind fence []
  | plain {c : Char} {rest : List Char} (hreturn : c ≠ '\r') (hadmits : kind.admits c = true)
      (hfence : c = '\x22' → ¬ fence <+: rest) (hrest : RawBody kind fence rest) :
      RawBody kind fence (c :: rest)
  | lineEnd {rest : List Char} (hrest : RawBody kind fence rest) :
      RawBody kind fence ('\r' :: '\n' :: rest)

/-- What stands between the quotes of a character or a byte. -/
inductive Single (kind : QuotedKind) : List Char → Prop
  | plain {c : Char} (hc : c ∉ ['\x27', '\\', '\n', '\r', '\t']) (hadmits : kind.admits c = true) :
      Single kind [c]
  | escape {escape : List Char} (hescape : Escape kind escape) : Single kind ('\\' :: escape)

/-- The signs around a raw literal, at most 255 on each side. -/
def IsFence (fence : List Char) : Prop := ∃ n ≤ 255, fence = List.replicate n '#'

/-- A literal with its content between quotes. -/
def cooked (body : List Char) : List Char := '\x22' :: body ++ ['\x22']

/-- A raw literal with its content between fences. -/
def raw (fence body : List Char) : List Char := fence ++ cooked body ++ fence

/-- A literal with its content between single quotes. -/
def single (content : List Char) : List Char := '\x27' :: content ++ ['\x27']

end Form

namespace Lexer

open Form

/-! ### Escapes are read -/

/-- From one mode to the plain one, through modes of an escape. -/
inductive EscapePath (kind : QuotedKind) : Mode → List Char → Prop
  | last {mode : Mode} {c : Char} {content : List Char}
      (hstep : step kind mode c = some (.next .plain content)) : EscapePath kind mode [c]
  | step {mode next : Mode} {c : Char} {content rest : List Char}
      (hstep : step kind mode c = some (.next next content))
      (hnext : next ∉ [Mode.plain, .continued, .continuedLineEnd]) (hrest : EscapePath kind next rest) :
      EscapePath kind mode (c :: rest)

/-- A cooked text goes on behind an escape in plain mode. -/
theorem EscapePath.cooked? {kind : QuotedKind} {mode : Mode} {text : List Char}
    (h : EscapePath kind mode text) (rest : List Char) :
    ∃ content, Lexer.cooked? kind mode (text ++ rest) =
      (Lexer.cooked? kind .plain rest).map fun read => (read.1 + text.length, content ++ read.2) := by
  induction h with
  | @last mode c content hstep =>
    refine ⟨content, ?_⟩
    simp [Lexer.cooked?, hstep]
  | @step mode next c content text hstep hnext htext ih =>
    obtain ⟨more, hmore⟩ := ih
    refine ⟨content ++ more, ?_⟩
    simp only [List.cons_append, Lexer.cooked?, hstep, hmore, Option.map_map]
    congr 1
    funext read
    simp [Nat.add_assoc]

/-- An escape ends where its path through the modes does. -/
theorem EscapePath.escapeLength? {kind : QuotedKind} {mode : Mode} {text : List Char}
    (h : EscapePath kind mode text) (rest : List Char) :
    Lexer.escapeLength? kind mode (text ++ rest) = some text.length := by
  induction h with
  | last hstep => simp [Lexer.escapeLength?, hstep]
  | @step mode next c content text hstep hnext htext ih =>
    rw [List.cons_append, Lexer.escapeLength?, hstep]
    cases next <;> simp_all

/-- A hexadecimal digit has a value below sixteen. -/
theorem hexValue?_of_mem {c : Char} (h : c ∈ hexadecimalDigits) :
    ∃ digit < 16, hexValue? c = some digit := by
  have hall : hexadecimalDigits.all (fun c => (hexValue? c).any (· < 16)) = true := by decide
  obtain ⟨digit, hvalue, hlt⟩ := (Option.any_eq_true _ _).mp (List.all_eq_true.mp hall c h)
  exact ⟨digit, by simpa using hlt, hvalue⟩

/-- An octal digit has a value of at most seven. -/
theorem hexValue?_of_mem_octalDigits {c : Char} (h : c ∈ octalDigits) :
    ∃ digit ≤ 7, hexValue? c = some digit := by
  have hall : octalDigits.all (fun c => (hexValue? c).any (· ≤ 7)) = true := by decide
  obtain ⟨digit, hvalue, hle⟩ := (Option.any_eq_true _ _).mp (List.all_eq_true.mp hall c h)
  exact ⟨digit, by simpa using hle, hvalue⟩

/-- A hexadecimal digit is no gap. -/
theorem ne_gap_of_mem {c : Char} (h : c ∈ hexadecimalDigits) : c ≠ '_' := by
  rintro rfl
  revert h
  decide

/-- A digit in front adds to the number that is already read. -/
theorem codeFrom_cons_of_mem {c : Char} (h : c ∈ hexadecimalDigits) {digit : Nat}
    (hdigit : hexValue? c = some digit) (value : Nat) (rest : List Char) :
    codeFrom value (c :: rest) = codeFrom (value * 16 + digit) rest := by
  simp [codeFrom, ne_gap_of_mem h, hdigit]

/-- In the code of a character one more of at most six digits is read. -/
theorem step_code {kind : QuotedKind} {c : Char} {digit count : Nat} (h : hexValue? c = some digit)
    (hcount : count ≠ 6) (value : Nat) :
    step kind (.code count value) c = some (.next (.code (count + 1) (value * 16 + digit)) []) := by
  simp [step, codeStep, h, hcount]

/-- In the code of a character a gap may stand behind the first digit. -/
theorem step_code_gap {kind : QuotedKind} {count : Nat} (hcount : count ≠ 0) (value : Nat) :
    step kind (.code count value) '_' = some (.next (.code count value) []) := by
  have hnone : hexValue? '_' = none := by decide
  simp [step, codeStep, hnone, hcount]

/-- The closing brace ends the code of a valid character. -/
theorem step_code_closing {count value : Nat} (hcount : count ≠ 0) (hvalid : value.isValidChar) :
    step .text (.code count value) '\x7d' = some (.next .plain [Char.ofNat value]) := by
  have hnone : hexValue? '\x7d' = none := by decide
  simp [step, codeStep, hnone, hcount, hvalid]

/-- Behind its first digit, a code is read up to its closing brace. -/
theorem escapePath_code {digits : List Char}
    (hdigits : ∀ c ∈ digits, c ∈ hexadecimalDigits ∨ c = '_') {count value : Nat}
    (hfirst : 0 < count) (hcount : count + digits.countP (· != '_') ≤ 6)
    (hvalid : (codeFrom value digits).isValidChar) :
    EscapePath .text (.code count value) (digits ++ ['\x7d']) := by
  induction digits generalizing count value with
  | nil => exact .last (step_code_closing (by omega) hvalid)
  | cons c rest ih =>
    obtain ⟨hc, hrest⟩ := List.forall_mem_cons.mp hdigits
    rcases hc with hc | rfl
    · obtain ⟨digit, _, hdigit⟩ := hexValue?_of_mem hc
      have hcons : (c :: rest).countP (· != '_') = rest.countP (· != '_') + 1 :=
        List.countP_cons_of_pos (by simpa using ne_gap_of_mem hc)
      rw [codeFrom_cons_of_mem hc hdigit] at hvalid
      have hpath := ih hrest (by omega : 0 < count + 1) (by omega) hvalid
      exact .step (step_code hdigit (by omega) value) (by simp) hpath
    · have hleft : count + rest.countP (· != '_') ≤ 6 := by simpa using hcount
      have hpath := ih hrest hfirst hleft hvalid
      exact .step (step_code_gap (by omega) value) (by simp) hpath

/-- Two hexadecimal digits are read behind their letter; in a text the first one is octal. -/
theorem escapePath_hexadecimal {kind : QuotedKind} (hkind : kind ≠ .cText) {high low : Char}
    {first second : Nat} (hhigh : hexValue? high = some first) (hlow : hexValue? low = some second)
    (hsmall : kind = .text → first ≤ 7) : EscapePath kind .escape ['x', high, low] := by
  have hletter : step kind .escape 'x' = some (.next .hexFirst []) := by rfl
  have hfirst : step kind .hexFirst high = some (.next (.hexSecond first) []) := by
    have hrefused : ¬ (kind = .text ∧ 7 < first) := by
      rintro ⟨htext, hlarge⟩
      have hbound := hsmall htext
      omega
    simp [step, hhigh, hrefused]
  have hsecond : step kind (.hexSecond first) low =
      some (.next .plain [Char.ofNat (first * 16 + second)]) := by
    simp [step, hlow, hkind]
  exact .step hletter (by simp) (.step hfirst (by simp) (.last hsecond))

/-- Every escape is read up to its end. -/
theorem escapePath_of_escape {kind : QuotedKind} {text : List Char} (h : Escape kind text) :
    EscapePath kind .escape text := by
  cases h with
  | @short _ c hkind hc =>
    have hshort : ∃ e, step kind .escape c = some (.next .plain [e]) := by
      simp only [List.mem_cons, List.not_mem_nil, or_false] at hc
      rcases hc with rfl | rfl | rfl | rfl | rfl | rfl | rfl <;>
        simp [step, escapeStep, shortEscape?, hkind]
    obtain ⟨e, hstep⟩ := hshort
    exact .last hstep
  | @ascii high low hhigh hlow =>
    obtain ⟨first, hsmall, hfirst⟩ := hexValue?_of_mem_octalDigits hhigh
    obtain ⟨second, _, hsecond⟩ := hexValue?_of_mem hlow
    exact escapePath_hexadecimal (by simp) hfirst hsecond fun _ => hsmall
  | @byte high low hhigh hlow =>
    obtain ⟨first, _, hfirst⟩ := hexValue?_of_mem hhigh
    obtain ⟨second, _, hsecond⟩ := hexValue?_of_mem hlow
    exact escapePath_hexadecimal (by simp) hfirst hsecond (by simp)
  | @unicode first rest hfirst hrest hcount hvalid =>
    obtain ⟨digit, _, hdigit⟩ := hexValue?_of_mem hfirst
    rw [codeFrom_cons_of_mem hfirst hdigit] at hvalid
    have hcode := escapePath_code hrest (by omega : 0 < 0 + 1) (by omega) hvalid
    have hdigits : EscapePath .text (.code 0 0) (first :: (rest ++ ['\x7d'])) :=
      .step (step_code hdigit (by omega) 0) (by simp) hcode
    exact .step (by rfl) (by simp) (.step (by rfl) (by simp) hdigits)

/-! ### Contents are read -/

/-- The modes in which a reader stands between the parts of a cooked text. -/
def Mode.Resting (mode : Mode) : Prop := mode = .plain ∨ mode = .continued

/-- A character without a meaning of its own is content, and the reader rests again. -/
theorem Mode.Resting.step_plain {kind : QuotedKind} {mode : Mode} (h : mode.Resting) {c : Char}
    (hquote : c ≠ '\x22') (hbackslash : c ≠ '\\') (hreturn : c ≠ '\r')
    (hadmits : kind.admits c = true) :
    ∃ next content, step kind mode c = some (.next next content) ∧ next.Resting := by
  have hplain : plainStep kind c = some (.next .plain [c]) := by
    simp [plainStep, hquote, hbackslash, hreturn, hadmits]
  rcases h with rfl | rfl
  · exact ⟨.plain, [c], hplain, .inl rfl⟩
  · by_cases hblank : c = ' ' ∨ c = '\t' ∨ c = '\n'
    · exact ⟨.continued, [], by simp [step, or_assoc, hblank], .inr rfl⟩
    · exact ⟨.plain, [c], by simp [step, or_assoc, hblank, hreturn, hplain], .inl rfl⟩

/-- A carriage return is read together with the line feed behind it. -/
theorem Mode.Resting.step_return {mode : Mode} (h : mode.Resting) (kind : QuotedKind) :
    ∃ ended next content, step kind mode '\r' = some (.next ended []) ∧
      step kind ended '\n' = some (.next next content) ∧ next.Resting := by
  rcases h with rfl | rfl
  · exact ⟨.lineEnd, .plain, ['\n'], by rfl, by rfl, .inl rfl⟩
  · exact ⟨.continuedLineEnd, .continued, [], by rfl, by rfl, .inr rfl⟩

/-- A backslash starts an escape. -/
theorem Mode.Resting.step_backslash {kind : QuotedKind} {mode : Mode} (h : mode.Resting) :
    step kind mode '\\' = some (.next .escape []) := by
  rcases h with rfl | rfl <;> rfl

/-- If one step goes on to a text with a closing quote, the whole text has one. -/
theorem cooked?_cons {kind : QuotedKind} {mode next : Mode} {c : Char} {front : List Char}
    (hstep : step kind mode c = some (.next next front)) {text : List Char} {length : Nat}
    (h : ∃ content, cooked? kind next text = some (length, content)) :
    ∃ content, cooked? kind mode (c :: text) = some (length + 1, content) := by
  obtain ⟨content, hcontent⟩ := h
  exact ⟨front ++ content, by simp [cooked?, hstep, hcontent]⟩

/-- A cooked text is read up to its closing quote. -/
theorem cooked?_of_body {kind : QuotedKind} {body : List Char} (h : Body kind body) {mode : Mode}
    (hmode : mode.Resting) :
    ∃ content, cooked? kind mode (body ++ ['\x22']) = some (body.length + 1, content) := by
  -- Between the parts of a text the reader rests, perhaps behind a line that was continued.
  induction h generalizing mode with
  | nil =>
    refine ⟨[], ?_⟩
    rcases hmode with rfl | rfl <;> rfl
  | plain hquote hbackslash hreturn hadmits _ ih =>
    obtain ⟨next, front, hstep, hnext⟩ := hmode.step_plain hquote hbackslash hreturn hadmits
    exact cooked?_cons hstep (ih hnext)
  | lineEnd _ ih =>
    obtain ⟨ended, next, front, hreturn, hfeed, hnext⟩ := hmode.step_return kind
    exact cooked?_cons hreturn (cooked?_cons hfeed (ih hnext))
  | @escape escape rest hescape _ ih =>
    obtain ⟨content, hcontent⟩ := ih (.inl rfl)
    obtain ⟨front, hfront⟩ := (escapePath_of_escape hescape).cooked? (rest ++ ['\x22'])
    have hread : ∃ content, cooked? kind .escape (escape ++ (rest ++ ['\x22'])) =
        some (rest.length + 1 + escape.length, content) :=
      ⟨front ++ content, by rw [hfront, hcontent]; rfl⟩
    obtain ⟨whole, hwhole⟩ := cooked?_cons hmode.step_backslash hread
    refine ⟨whole, ?_⟩
    have hlength : ('\\' :: escape ++ rest).length + 1 = rest.length + 1 + escape.length + 1 := by
      simp only [List.cons_append, List.length_cons, List.length_append]
      omega
    rw [hlength, ← hwhole, List.append_assoc, List.cons_append]
  | continued _ ih =>
    exact cooked?_cons hmode.step_backslash (cooked?_cons (by rfl) (ih (.inr rfl)))
  | continuedLineEnd _ ih =>
    exact cooked?_cons hmode.step_backslash
      (cooked?_cons (by rfl) (cooked?_cons (by rfl) (ih (.inr rfl))))

/-- A fence that starts in front of the closing quote of a raw text ends in front of it, too. -/
theorem prefix_of_prefix_append {n m : Nat} {rest : List Char}
    (h : List.replicate n '#' <+: rest ++ '\x22' :: List.replicate m '#') :
    List.replicate n '#' <+: rest := by
  induction n generalizing rest with
  | zero => exact List.nil_prefix
  | succ n ih =>
    cases rest with
    | nil => simp [List.replicate_succ] at h
    | cons c rest =>
      simp only [List.replicate_succ, List.cons_append, List.cons_prefix_cons] at h ⊢
      exact ⟨h.1, ih h.2⟩

/-- A raw text ends at a quote in front of the fence and goes on at any other character. -/
theorem raw?_cons {c : Char} (h : c ≠ '\r') (kind : QuotedKind) (fence rest : List Char) :
    raw? kind fence (c :: rest) =
      if c = '\x22' && fence.isPrefixOf rest then some (1 + fence.length, [])
      else if kind.admits c then
        (raw? kind fence rest).map fun read => (read.1 + 1, c :: read.2)
      else none := by
  rw [raw?.eq_4]
  · exact fun _ hreturn => absurd hreturn h
  · exact h

/-- A raw text is read up to the first quote with a fence behind it. -/
theorem raw?_of_rawBody {kind : QuotedKind} {n : Nat} {body : List Char}
    (h : RawBody kind (List.replicate n '#') body) :
    ∃ content, raw? kind (List.replicate n '#') (body ++ '\x22' :: List.replicate n '#') =
      some (body.length + 1 + n, content) := by
  induction h with
  | nil =>
    refine ⟨[], ?_⟩
    have hfence : (List.replicate n '#').isPrefixOf (List.replicate n '#') = true := by simp
    rw [List.nil_append, raw?_cons (by decide), hfence]
    simp
  | @plain c rest hreturn hadmits hfence _ ih =>
    obtain ⟨content, hcontent⟩ := ih
    refine ⟨c :: content, ?_⟩
    have hopen : (c = '\x22' && (List.replicate n '#').isPrefixOf
        (rest ++ '\x22' :: List.replicate n '#')) = false := by
      refine Bool.eq_false_iff.mpr fun hclosed => ?_
      obtain ⟨hquote, hprefix⟩ := Bool.and_eq_true_iff.mp hclosed
      exact hfence (by simpa using hquote)
        (prefix_of_prefix_append (List.isPrefixOf_iff_prefix.mp hprefix))
    rw [List.cons_append, raw?_cons hreturn, hopen, hcontent, hadmits]
    simp only [Bool.false_eq_true, if_false, if_true, Option.map_some, List.length_cons,
      Option.some.injEq, Prod.mk.injEq, and_true]
    omega
  | @lineEnd rest _ ih =>
    obtain ⟨content, hcontent⟩ := ih
    refine ⟨'\r' :: '\n' :: content, ?_⟩
    simp only [List.cons_append, raw?, hcontent, Option.map_some, List.length_cons,
      Option.some.injEq, Prod.mk.injEq, and_true]
    omega

/-- A raw literal is read behind its letters. -/
theorem fenced?_raw {kind : QuotedKind} {fence body : List Char} (hfence : IsFence fence)
    (hbody : RawBody kind fence body) :
    ∃ content, fenced? kind (raw fence body) = some ((raw fence body).length, content) := by
  obtain ⟨n, hn, rfl⟩ := hfence
  obtain ⟨content, hcontent⟩ := raw?_of_rawBody hbody
  refine ⟨content, ?_⟩
  have hraw : raw (List.replicate n '#') body =
      List.replicate n '#' ++ '\x22' :: (body ++ '\x22' :: List.replicate n '#') := by
    simp [raw, cooked]
  have htake : (raw (List.replicate n '#') body).takeWhile (· = '#') = List.replicate n '#' := by
    rw [hraw, List.takeWhile_append_of_pos (by simp), List.takeWhile_cons_of_neg (by decide),
      List.append_nil]
  have hdrop : (raw (List.replicate n '#') body).drop (List.replicate n '#').length =
      '\x22' :: (body ++ '\x22' :: List.replicate n '#') := by
    rw [hraw, List.drop_left]
  have hlength : (raw (List.replicate n '#') body).length = n + 1 + (body.length + 1 + n) := by
    rw [hraw]
    simp only [List.length_append, List.length_replicate, List.length_cons]
    omega
  have hshort : n ≤ maxFence := hn
  rw [fenced?, htake, hdrop, hlength]
  simp only [List.length_replicate, if_pos hshort, hcontent, Option.map_some]

/-- One character, or an escape, is read between its quotes. -/
theorem singleLength?_of_single {kind : QuotedKind} {content : List Char}
    (h : Single kind content) :
    singleLength? kind (content ++ ['\x27']) = some (content.length + 1) := by
  cases h with
  | @plain c hc hadmits =>
    have hbackslash : c ≠ '\\' := by
      rintro rfl
      simp at hc
    unfold singleLength?
    simp [hadmits]
  | @escape escape hescape =>
    have hlength := (escapePath_of_escape hescape).escapeLength? ['\x27']
    unfold singleLength?
    simp [hlength]

/-! ### Literals are read -/

/-- A string, raw or not. -/
theorem quoted?_string {body : List Char} (h : Body .text body) :
    ∃ content, quoted? (cooked body) = some ⟨.text, (cooked body).length, content⟩ := by
  obtain ⟨content, hcontent⟩ := cooked?_of_body h (.inl rfl)
  exact ⟨content, by simp [cooked, quoted?, hcontent]⟩

/-- A raw string is read as a whole. -/
theorem quoted?_rawString {fence body : List Char} (hfence : IsFence fence)
    (hbody : RawBody .text fence body) :
    ∃ content, quoted? ('r' :: raw fence body) =
      some ⟨.text, ('r' :: raw fence body).length, content⟩ := by
  obtain ⟨content, hcontent⟩ := fenced?_raw hfence hbody
  exact ⟨content, by simp [quoted?, hcontent]⟩

/-- A byte string, raw or not. -/
theorem quoted?_byteString {body : List Char} (h : Body .bytes body) :
    ∃ content, quoted? ('b' :: cooked body) =
      some ⟨.bytes, ('b' :: cooked body).length, content⟩ := by
  obtain ⟨content, hcontent⟩ := cooked?_of_body h (.inl rfl)
  exact ⟨content, by simp [cooked, quoted?, hcontent]⟩

/-- A raw byte string is read as a whole. -/
theorem quoted?_rawByteString {fence body : List Char} (hfence : IsFence fence)
    (hbody : RawBody .bytes fence body) :
    ∃ content, quoted? ('b' :: 'r' :: raw fence body) =
      some ⟨.bytes, ('b' :: 'r' :: raw fence body).length, content⟩ := by
  obtain ⟨content, hcontent⟩ := fenced?_raw hfence hbody
  exact ⟨content, by simp [quoted?, hcontent]⟩

/-- A character is no string. -/
theorem single?_character {content : List Char} (h : Single .text content) :
    quoted? (single content) = none ∧
      single? (single content) = some (.text, (single content).length) := by
  have hlength := singleLength?_of_single h
  exact ⟨by simp [single, quoted?], by simp [single, single?, hlength]⟩

/-- A byte is read as a whole, and as no string. -/
theorem single?_byte {content : List Char} (h : Single .bytes content) :
    quoted? ('b' :: single content) = none ∧
      single? ('b' :: single content) = some (.bytes, ('b' :: single content).length) := by
  have hlength := singleLength?_of_single h
  exact ⟨by simp [single, quoted?], by simp [single, single?, hlength]⟩

end Lexer

end ValuedEnum
