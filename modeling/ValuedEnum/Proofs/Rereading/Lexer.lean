import Mathlib.Data.List.TakeWhile
import ValuedEnum.Proofs.Rereading.Token
import ValuedEnum.Proofs.Typing.Quoted

/-!
# Literals without what follows them

The lexer cuts a literal off the front of a text, and it looks at what follows to see where the
literal ends. Nothing behind the literal decides what it is, however: the characters that were cut
off are one literal on their own.
-/

namespace ValuedEnum

namespace Lexer

open Text

/-- What a reader takes from the front of a text, it takes from a text that ends there, or anywhere
behind. -/
def FrontDetermined {α : Type} (read? : List Char → Option α) (length : α → Nat) : Prop :=
  ∀ ⦃front behind : List Char⦄ ⦃result : α⦄, read? (front ++ behind) = some result →
    length result ≤ front.length → read? front = some result

/-- A reader that has an opening in front of what another reader takes. -/
theorem FrontDetermined.behind {α β : Type} {part? : List Char → Option α} {partLength : α → Nat}
    (hpart : FrontDetermined part? partLength) {whole? : List Char → Option β} {form : α → β}
    {length : β → Nat} (opening : List Char) {front behind rest : List Char}
    (htext : front ++ behind = opening ++ rest) {result : β}
    (h : whole? (front ++ behind) = some result) (hlength : length result ≤ front.length)
    (hwhole : ∀ rest, whole? (opening ++ rest) = (part? rest).map form := by exact fun _ => rfl)
    (hform : ∀ read, length (form read) = partLength read + opening.length := by
      exact fun _ => rfl) :
    whole? front = some result := by
  rw [htext, hwhole] at h
  obtain ⟨read, hread, rfl⟩ := Option.map_eq_some_iff.mp h
  rw [hform] at hlength
  obtain ⟨more, rfl⟩ : opening <+: front :=
    List.prefix_of_prefix_length_le ⟨rest, rfl⟩ (htext ▸ List.prefix_append front behind) (by omega)
  obtain rfl : more ++ behind = rest := by simpa using htext
  rw [List.length_append] at hlength
  rw [hwhole, hpart hread (by omega), Option.map_some]

/-! ### Quoted literals -/

/-- A text with escapes ends with its closing quote, so it is not empty. -/
theorem cooked?_bounds {kind : QuotedKind} {mode : Mode} {text : List Char}
    {read : Nat × List Char} (h : cooked? kind mode text = some read) :
    0 < read.1 ∧ read.1 ≤ text.length := by
  induction text generalizing mode read with
  | nil => simp [cooked?] at h
  | cons c rest ih =>
    rw [cooked?] at h
    grind [Option.map_eq_some_iff]

/-- What follows the closing quote does not matter to a text with escapes. -/
theorem frontDetermined_cooked? (kind : QuotedKind) (mode : Mode) :
    FrontDetermined (cooked? kind mode) Prod.fst := by
  intro front behind read h hlength
  induction front generalizing mode read with
  | nil =>
    have hpos := (cooked?_bounds h).1
    simp at hlength
    omega
  | cons c rest ih =>
    rw [List.cons_append, cooked?] at h
    rw [cooked?]
    cases hstep : step kind mode c with
    | none => simp [hstep] at h
    | some step =>
      cases step with
      | closed => simpa [hstep] using h
      | next mode content =>
        simp only [hstep, Option.map_eq_some_iff] at h ⊢
        obtain ⟨inner, hinner, rfl⟩ := h
        exact ⟨inner, ih mode hinner (by simpa using hlength), rfl⟩

/-- A raw text ends with its closing quote, so it is not empty. -/
theorem raw?_bounds {kind : QuotedKind} {fence text : List Char} {read : Nat × List Char}
    (h : raw? kind fence text = some read) : 0 < read.1 ∧ read.1 ≤ text.length := by
  induction text using raw?.induct kind fence generalizing read with
  | case1 => simp [raw?] at h
  | case2 rest ih =>
    rw [raw?] at h
    grind [Option.map_eq_some_iff]
  | case3 rest hfeed => simp [raw?] at h
  | case4 c rest _ hreturn hclosed =>
    have hfence : fence <+: rest := by simpa using (Bool.and_eq_true_iff.mp hclosed).2
    have hlength := hfence.length_le
    rw [raw?_cons hreturn, if_pos hclosed] at h
    grind
  | case5 c rest _ hreturn hopen hadmits ih =>
    rw [raw?_cons hreturn, if_neg hopen, if_pos hadmits] at h
    grind [Option.map_eq_some_iff]
  | case6 c rest _ hreturn hopen hadmits =>
    simp [raw?_cons hreturn, hopen, hadmits] at h

/-- A carriage return in a raw text has a line feed behind it. -/
theorem raw?_return {kind : QuotedKind} {fence rest : List Char} {read : Nat × List Char}
    (h : raw? kind fence ('\r' :: rest) = some read) :
    ∃ more, rest = '\n' :: more ∧ 2 ≤ read.1 := by
  unfold raw? at h
  split at h
  · simp at *
  · rename_i more heq
    obtain ⟨inner, _, rfl⟩ := Option.map_eq_some_iff.mp h
    exact ⟨more, (List.cons.inj heq).2, by simp⟩
  · simp at h
  · rename_i hreturn heq
    exact absurd (List.cons.inj heq).1.symm hreturn

/-- A raw text that ends at all ends in front of what follows it. -/
theorem raw?_closes {kind : QuotedKind} {fence : List Char} {c : Char} (hc : c ≠ '\r')
    {rest behind : List Char} {read : Nat × List Char}
    (h : raw? kind fence (c :: (rest ++ behind)) = some read) (hlength : read.1 ≤ rest.length + 1) :
    (c = '\x22' && fence.isPrefixOf (rest ++ behind)) = (c = '\x22' && fence.isPrefixOf rest) := by
  rw [Bool.eq_iff_iff, Bool.and_eq_true, Bool.and_eq_true, and_congr_right_iff,
    List.isPrefixOf_iff_prefix, List.isPrefixOf_iff_prefix]
  intro hquote
  refine ⟨fun hprefix => ?_, fun hprefix => hprefix.trans (List.prefix_append rest behind)⟩
  have hclosed : (c = '\x22' && fence.isPrefixOf (rest ++ behind)) = true := by
    rw [hquote, List.isPrefixOf_iff_prefix.mpr hprefix, Bool.true_and]
  rw [raw?_cons hc, if_pos hclosed] at h
  obtain rfl : (1 + fence.length, []) = read := Option.some.inj h
  exact List.prefix_of_prefix_length_le hprefix (List.prefix_append rest behind) (by omega)

/-- What follows the closing fence does not matter to a raw text. -/
theorem frontDetermined_raw? (kind : QuotedKind) (fence : List Char) :
    FrontDetermined (raw? kind fence) Prod.fst := by
  intro front behind read h hlength
  induction front using raw?.induct kind fence generalizing read with
  | case1 =>
    have hpos := (raw?_bounds h).1
    simp at hlength
    omega
  | case2 rest ih =>
    simp only [List.cons_append, raw?, Option.map_eq_some_iff] at h ⊢
    obtain ⟨inner, hinner, rfl⟩ := h
    exact ⟨inner, ih hinner (by simpa using hlength), rfl⟩
  | case3 rest hfeed =>
    -- The carriage return would belong to a line feed, which is read as well.
    obtain ⟨more, hmore, hlong⟩ := raw?_return h
    cases rest with
    | nil => simp at hlength; omega
    | cons c rest => exact absurd (List.cons.inj hmore).1 fun hc => hfeed rest (by rw [hc])
  | case4 c rest _ hreturn hclosed =>
    rw [List.cons_append] at h
    have hcloses := raw?_closes hreturn h hlength
    rw [raw?_cons hreturn, hcloses, if_pos hclosed] at h
    rwa [raw?_cons hreturn, if_pos hclosed]
  | case5 c rest _ hreturn hopen hadmits ih =>
    rw [List.cons_append] at h
    have hcloses := raw?_closes hreturn h hlength
    rw [raw?_cons hreturn, hcloses, if_neg hopen, if_pos hadmits] at h
    rw [raw?_cons hreturn, if_neg hopen, if_pos hadmits]
    obtain ⟨inner, hinner, rfl⟩ := Option.map_eq_some_iff.mp h
    rw [ih hinner (by simpa using hlength)]
    rfl
  | case6 c rest _ hreturn hopen hadmits =>
    rw [List.cons_append] at h
    have hcloses := raw?_closes hreturn h hlength
    rw [raw?_cons hreturn, hcloses, if_neg hopen, if_neg hadmits] at h
    simp at h

/-- A run of characters of one kind does not depend on what follows it. -/
theorem takeWhile_append_of_length_le {p : Char → Bool} {front behind : List Char}
    (h : ((front ++ behind).takeWhile p).length ≤ front.length) :
    (front ++ behind).takeWhile p = front.takeWhile p := by
  rw [List.takeWhile_append] at h ⊢
  split
  · rename_i hall
    rw [if_pos hall] at h
    have hnone : behind.takeWhile p = [] := by
      rw [List.length_append] at h
      rw [← List.length_eq_zero_iff]
      omega
    rw [hnone, List.append_nil]
    exact ((List.takeWhile_prefix p).eq_of_length hall).symm
  · rfl

/-- A raw text stands between two fences of the same length, which is bounded. -/
theorem fenced?_eq_some_iff {kind : QuotedKind} {text : List Char} {read : Nat × List Char} :
    fenced? kind text = some read ↔ ∃ fence rest inner, text.takeWhile (· = '#') = fence ∧
      text.drop fence.length = '\x22' :: rest ∧ fence.length ≤ maxFence ∧
      raw? kind fence rest = some inner ∧ (fence.length + 1 + inner.1, inner.2) = read := by
  unfold fenced?
  extract_lets fence
  constructor
  · intro h
    split at h
    · rename_i rest hrest
      obtain ⟨hfence, hraw⟩ := Option.ite_none_right_eq_some.mp h
      obtain ⟨inner, hinner, hread⟩ := Option.map_eq_some_iff.mp hraw
      exact ⟨fence, rest, inner, rfl, hrest, hfence, hinner, hread⟩
    · simp at h
  · rintro ⟨_, rest, inner, rfl, hrest, hfence, hinner, hread⟩
    simp only [fence, hrest, if_pos hfence, hinner, Option.map_some, hread]

/-- What follows does not matter to a raw text with its fences. -/
theorem frontDetermined_fenced? (kind : QuotedKind) :
    FrontDetermined (fenced? kind) Prod.fst := by
  intro front behind read h hlength
  obtain ⟨fence, rest, inner, hfence, hrest, hshort, hinner, rfl⟩ := fenced?_eq_some_iff.mp h
  dsimp only at hlength
  have hrun : front.takeWhile (· = '#') = fence := by
    rw [← hfence]
    exact (takeWhile_append_of_length_le (by rw [hfence]; omega)).symm
  rw [List.drop_append_of_le_length (by omega)] at hrest
  have hinside : (front.drop fence.length).length = front.length - fence.length :=
    List.length_drop
  cases hdrop : front.drop fence.length with
  | nil =>
    rw [hdrop, List.length_nil] at hinside
    omega
  | cons c more =>
    rw [hdrop, List.length_cons] at hinside
    rw [hdrop, List.cons_append, List.cons.injEq] at hrest
    obtain ⟨rfl, rfl⟩ := hrest
    have hraw := frontDetermined_raw? kind fence hinner (by omega)
    exact fenced?_eq_some_iff.mpr ⟨fence, more, inner, hrun, hdrop, hshort, hraw, rfl⟩

/-- What follows does not matter to a quoted text of any kind. -/
theorem frontDetermined_quoted? : FrontDetermined quoted? Quoted.length := by
  intro front behind read h hlength
  have hquoted := h
  unfold quoted? at hquoted
  split at hquoted
  · rename_i htext
    exact (frontDetermined_cooked? .text .plain).behind ['\x22'] htext h hlength
  · rename_i htext
    exact (frontDetermined_fenced? .text).behind ['r'] htext h hlength
  · rename_i htext
    exact (frontDetermined_cooked? .bytes .plain).behind ['b', '\x22'] htext h hlength
  · rename_i htext
    exact (frontDetermined_fenced? .bytes).behind ['b', 'r'] htext h hlength
  · rename_i htext
    exact (frontDetermined_cooked? .cText .plain).behind ['c', '\x22'] htext h hlength
  · rename_i htext
    exact (frontDetermined_fenced? .cText).behind ['c', 'r'] htext h hlength
  · simp at hquoted

/-- An escape is not empty and ends within the text. -/
theorem escapeLength?_bounds {kind : QuotedKind} {mode : Mode} {text : List Char} {length : Nat}
    (h : escapeLength? kind mode text = some length) : 0 < length ∧ length ≤ text.length := by
  induction text generalizing mode length with
  | nil => simp [escapeLength?] at h
  | cons c rest ih =>
    rw [escapeLength?] at h
    grind [Option.map_eq_some_iff]

/-- What follows does not matter to an escape. -/
theorem frontDetermined_escapeLength? (kind : QuotedKind) (mode : Mode) :
    FrontDetermined (escapeLength? kind mode) id := by
  intro front behind length h hlength
  induction front generalizing mode length with
  | nil =>
    have hpos := (escapeLength?_bounds h).1
    simp at hlength
    omega
  | cons c rest ih =>
    have hinner {inner : Mode}
        (h : (escapeLength? kind inner (rest ++ behind)).map (· + 1) = some length) :
        (escapeLength? kind inner rest).map (· + 1) = some length := by
      obtain ⟨more, hmore, rfl⟩ := Option.map_eq_some_iff.mp h
      rw [ih inner hmore (by simpa using hlength), Option.map_some]
    rw [List.cons_append, escapeLength?] at h
    rw [escapeLength?]
    rcases hstep : step kind mode c with _ | _ | ⟨next, content⟩
    · simp [hstep] at h
    · simp [hstep] at h
    · rw [hstep] at h
      cases next with
      | plain => exact h
      | continued => simp at h
      | continuedLineEnd => simp at h
      | _ => exact hinner h

/-- The length of the character or the escape in front of a closing single quote. -/
def contentLength? (kind : QuotedKind) : List Char → Option Nat
  | '\\' :: rest => (escapeLength? kind .escape rest).map (· + 1)
  | c :: _ => if kind.admits c then some 1 else none
  | [] => none

/-- A single quote closes behind one character or one escape. -/
theorem singleLength?_eq_some_iff {kind : QuotedKind} {text : List Char} {length : Nat} :
    singleLength? kind text = some length ↔ ∃ content, contentLength? kind text = some content ∧
      (text.drop content).head? = some '\x27' ∧ content + 1 = length := by
  change (contentLength? kind text).bind _ = _ ↔ _
  simp only [Option.bind_eq_some_iff, Option.ite_none_right_eq_some, Option.some.injEq]

/-- What follows does not matter to the content of single quotes. -/
theorem frontDetermined_contentLength? (kind : QuotedKind) :
    FrontDetermined (contentLength? kind) id := by
  intro front behind length h hlength
  cases front with
  | nil =>
    have hpos : 0 < length := by
      unfold contentLength? at h
      grind [Option.map_eq_some_iff]
    simp at hlength
    omega
  | cons c rest =>
    by_cases hc : c = '\\'
    · subst hc
      have htext : ('\\' :: rest) ++ behind = ['\\'] ++ (rest ++ behind) := rfl
      exact (frontDetermined_escapeLength? kind .escape).behind ['\\'] htext h hlength
    · rw [List.cons_append] at h
      simpa [contentLength?, hc] using h

/-- What follows the closing single quote does not matter. -/
theorem frontDetermined_singleLength? (kind : QuotedKind) :
    FrontDetermined (singleLength? kind) id := by
  intro front behind length h hlength
  obtain ⟨content, hcontent, hclosed, rfl⟩ := singleLength?_eq_some_iff.mp h
  have hinside : content < front.length := hlength
  have hdrop : front.drop content ≠ [] := by simpa using hinside
  rw [List.drop_append_of_le_length hinside.le, List.head?_append,
    Option.or_of_isSome (by simpa using hdrop)] at hclosed
  have hfront := frontDetermined_contentLength? kind hcontent hinside.le
  exact singleLength?_eq_some_iff.mpr ⟨content, hfront, hclosed, rfl⟩

/-- What follows does not matter to a literal in single quotes of any kind. -/
theorem frontDetermined_single? : FrontDetermined single? Prod.snd := by
  intro front behind read h hlength
  have hsingle := h
  unfold single? at hsingle
  split at hsingle
  · rename_i htext
    exact (frontDetermined_singleLength? .text).behind ['\x27'] htext h hlength
  · rename_i htext
    exact (frontDetermined_singleLength? .bytes).behind ['b', '\x27'] htext h hlength
  · simp at hsingle

/-! ### Numbers -/

/-- An exponent is not empty and ends within the text. -/
theorem exponentLength?_bounds {signed : Bool} {text : List Char} {length : Nat}
    (h : exponentLength? signed text = some length) : 0 < length ∧ length ≤ text.length := by
  induction text generalizing signed length with
  | nil => simp [exponentLength?] at h
  | cons c rest ih =>
    have hrun := (List.takeWhile_prefix isDigitOrGap (l := rest)).length_le
    rw [exponentLength?] at h
    grind [Option.map_eq_some_iff]

/-- What follows does not matter to an exponent that is already cut off. -/
theorem frontDetermined_exponentLength? (signed : Bool) :
    FrontDetermined (exponentLength? signed) id := by
  intro front behind length h hlength
  induction front generalizing signed length with
  | nil =>
    have hpos := (exponentLength?_bounds h).1
    simp at hlength
    omega
  | cons c rest ih =>
    have hinner {signed : Bool}
        (h : (exponentLength? signed (rest ++ behind)).map (· + 1) = some length) :
        (exponentLength? signed rest).map (· + 1) = some length := by
      obtain ⟨more, hmore, rfl⟩ := Option.map_eq_some_iff.mp h
      rw [ih signed hmore (by simpa using hlength), Option.map_some]
    rw [List.cons_append, exponentLength?] at h
    rw [exponentLength?]
    split at h
    · rw [if_pos ‹_›]
      split at h
      · simp at h
      · rw [if_neg ‹_›]
        exact hinner h
    · rw [if_neg ‹_›]
      split at h
      · rw [if_pos ‹_›]
        obtain rfl : 1 + ((rest ++ behind).takeWhile isDigitOrGap).length = length := by
          simpa using h
        simp only [id_eq, List.length_cons] at hlength
        rw [takeWhile_append_of_length_le (by omega)]
      · rw [if_neg ‹_›]
        split at h
        · rw [if_pos ‹_›]
          exact hinner h
        · simp at h

/-- What follows an exponent may make it longer, but it stays one. -/
theorem isSome_exponentLength?_append {signed : Bool} {front : List Char}
    (h : (exponentLength? signed front).isSome) (behind : List Char) :
    (exponentLength? signed (front ++ behind)).isSome := by
  induction front generalizing signed with
  | nil => simp [exponentLength?] at h
  | cons c rest ih =>
    rw [exponentLength?] at h
    rw [List.cons_append, exponentLength?]
    grind

/-- Where an exponent may follow, it does not depend on what stands behind it. -/
theorem exponentLength?_append {front behind : List Char}
    (h : ∀ length, exponentLength? false (front ++ behind) = some length → length ≤ front.length) :
    exponentLength? false front = exponentLength? false (front ++ behind) := by
  cases hfront : exponentLength? false front with
  | none =>
    cases hwhole : exponentLength? false (front ++ behind) with
    | none => rfl
    | some length =>
      have hsame := frontDetermined_exponentLength? false hwhole (h length hwhole)
      simp [hfront] at hsame
  | some length =>
    have hsome := isSome_exponentLength?_append (Option.isSome_of_eq_some hfront) behind
    obtain ⟨whole, hwhole⟩ := Option.isSome_iff_exists.mp hsome
    have hsame := frontDetermined_exponentLength? false hwhole (h whole hwhole)
    rw [hwhole, ← hfront, hsame]

/-- What stands behind the digits and the point of a float. -/
theorem floatTail?_append {whole length : Nat} {pointed : Bool} {front behind : List Char}
    (h : floatTail? whole pointed (front ++ behind) = some length)
    (hlength : length ≤ whole + front.length) : floatTail? whole pointed front = some length := by
  cases front with
  | nil =>
    cases behind with
    | nil => exact h
    | cons c rest =>
      unfold floatTail? at h ⊢
      grind
  | cons c rest =>
    have hexponent (he : c = 'e' ∨ c = 'E') :
        exponentLength? false rest = exponentLength? false (rest ++ behind) := by
      refine exponentLength?_append fun more hmore => ?_
      unfold floatTail? at h
      grind
    unfold floatTail? at h ⊢
    grind

/-- Behind its first digits a float has a point or an exponent, so it goes on if no point was
read. -/
theorem floatTail?_ge {whole length : Nat} {pointed : Bool} {text : List Char}
    (h : floatTail? whole pointed text = some length) :
    whole ≤ length ∧ (pointed = false → whole < length) := by
  unfold floatTail? at h
  grind

/-- The length of a float whose first digits are already read. -/
def pointTail? (whole : Nat) : List Char → Option Nat
  | '.' :: rest =>
    match rest with
    | d :: _ =>
      if d = '.' || isIdentifierStart d then none
      else
        let fraction := (rest.takeWhile isDigitOrGap).length
        floatTail? (whole + 1 + fraction) true (rest.drop fraction)
    | [] => some (whole + 1)
  | rest => floatTail? whole false rest

/-- Without a point the exponent follows the first digits. -/
theorem pointTail?_of_ne {c : Char} (h : c ≠ '.') (whole : Nat) (rest : List Char) :
    pointTail? whole (c :: rest) = floatTail? whole false (c :: rest) := by
  simp [pointTail?, h]

/-- A float is longer than its first digits. -/
theorem lt_of_pointTail? {whole length : Nat} {text : List Char}
    (h : pointTail? whole text = some length) : whole < length := by
  unfold pointTail? at h
  split at h
  · split at h
    · have hge := (floatTail?_ge (Option.ite_none_left_eq_some.mp h).2).1
      omega
    · have hlength := Option.some.inj h
      omega
  · exact (floatTail?_ge h).2 rfl

/-- A float that ends in the front part of a text ends there without the back part. -/
theorem pointTail?_append {whole length : Nat} {front behind : List Char}
    (h : pointTail? whole (front ++ behind) = some length)
    (hlength : length ≤ whole + front.length) : pointTail? whole front = some length := by
  have hlong := lt_of_pointTail? h
  cases front with
  | nil =>
    simp at hlength
    omega
  | cons c rest =>
    -- The number may end with its point. Only where more digits or an exponent follow does the
    -- reader look further, and it ends within the front part by assumption.
    by_cases hc : c = '.'
    · subst hc
      cases rest with
      | nil =>
        have hend : length = whole + 1 := by
          rw [List.length_singleton] at hlength
          omega
        rw [pointTail?, hend]
      | cons d more =>
        rw [List.cons_append, List.cons_append, pointTail?] at h
        obtain ⟨hpoint, htail⟩ := Option.ite_none_left_eq_some.mp h
        rw [← List.cons_append] at htail
        have hge := (floatTail?_ge htail).1
        rw [List.length_cons] at hlength
        have hrun : (d :: more ++ behind).takeWhile isDigitOrGap =
            (d :: more).takeWhile isDigitOrGap :=
          takeWhile_append_of_length_le (by omega)
        have hfraction := (List.takeWhile_prefix isDigitOrGap (l := d :: more)).length_le
        rw [hrun] at htail
        dsimp only at htail
        rw [List.drop_append_of_le_length hfraction] at htail
        rw [pointTail?, if_neg hpoint]
        refine floatTail?_append htail ?_
        rw [List.length_drop]
        omega
    · rw [List.cons_append, pointTail?_of_ne hc] at h
      rw [pointTail?_of_ne hc]
      exact floatTail?_append h hlength

/-- A float starts with a digit and goes on behind its first digits. -/
theorem floatDigits?_eq_some_iff {text : List Char} {length : Nat} :
    floatDigits? text = some length ↔ (∃ c rest, text = c :: rest ∧ c.isDigit = true) ∧
      pointTail? (text.takeWhile isDigitOrGap).length
        (text.drop (text.takeWhile isDigitOrGap).length) = some length := by
  cases text with
  | nil => simp [floatDigits?]
  | cons c rest =>
    change (if c.isDigit then pointTail? _ _ else none) = _ ↔ _
    rw [Option.ite_none_right_eq_some]
    simp

/-- What follows does not matter to the digits of a float. -/
theorem frontDetermined_floatDigits? : FrontDetermined floatDigits? id := by
  intro front behind length h hlength
  obtain ⟨⟨c, rest, htext, hc⟩, htail⟩ := floatDigits?_eq_some_iff.mp h
  have hlong := lt_of_pointTail? htail
  rw [id_eq] at hlength
  have hrun := takeWhile_append_of_length_le (hlong.trans_le hlength).le
  have hwhole := (List.takeWhile_prefix isDigitOrGap (l := front)).length_le
  rw [hrun, List.drop_append_of_le_length hwhole] at htail
  refine floatDigits?_eq_some_iff.mpr ⟨?_, pointTail?_append htail ?_⟩
  · cases front with
    | nil => simp at hlength; omega
    | cons d more => exact ⟨d, more, rfl, (List.cons.inj htext).1 ▸ hc⟩
  · rw [List.length_drop]
    omega

/-- Where no digits are not enough, some are read. -/
theorem digitsLength?_pos {base : Nat} {text : List Char} {length : Nat}
    (h : digitsLength? base true text = some length) : 0 < length := by
  unfold digitsLength? at h
  grind [Option.map_eq_some_iff]

/-- What follows does not matter to digits of a given base. -/
theorem frontDetermined_digitsLength? (base : Nat) (empty : Bool) :
    FrontDetermined (digitsLength? base empty) id := by
  intro front behind length h hlength
  induction front generalizing empty length with
  | nil =>
    cases empty with
    | true =>
      have hpos := digitsLength?_pos h
      simp at hlength
      omega
    | false =>
      simp only [id_eq, List.length_nil, Nat.le_zero_eq] at hlength
      simp [digitsLength?, hlength]
  | cons c rest ih =>
    have hinner {empty : Bool}
        (h : (digitsLength? base empty (rest ++ behind)).map (· + 1) = some length) :
        (digitsLength? base empty rest).map (· + 1) = some length := by
      obtain ⟨more, hmore, rfl⟩ := Option.map_eq_some_iff.mp h
      rw [ih empty hmore (by simpa using hlength), Option.map_some]
    rw [List.cons_append, digitsLength?] at h
    rw [digitsLength?]
    grind

/-- What follows does not matter to an integer with its base. -/
theorem frontDetermined_intDigits? : FrontDetermined intDigits? id := by
  intro front behind length h hlength
  have hdigits := h
  unfold intDigits? at hdigits
  split at hdigits
  · rename_i htext
    exact (frontDetermined_digitsLength? 16 true).behind ['0', 'x'] htext h hlength
  · rename_i htext
    exact (frontDetermined_digitsLength? 8 true).behind ['0', 'o'] htext h hlength
  · rename_i htext
    exact (frontDetermined_digitsLength? 2 true).behind ['0', 'b'] htext h hlength
  · rename_i hx ho hb
    have hplain : intDigits? front = digitsLength? 10 true front := by
      unfold intDigits?
      split
      · exact absurd rfl (hx _)
      · exact absurd rfl (ho _)
      · exact absurd rfl (hb _)
      · rfl
    rw [hplain]
    exact frontDetermined_digitsLength? 10 true hdigits hlength

/-! ### Suffixes -/

/-- A word that reaches to the end of a text is one without what follows it. -/
theorem identifierLength?_append {front behind : List Char}
    (h : (identifierLength? (front ++ behind)).getD 0 = front.length) :
    (identifierLength? front).getD 0 = front.length ∧
      ∀ c ∈ front, isIdentifierPart c = true := by
  cases front with
  | nil => simp [identifierLength?]
  | cons c rest =>
    rw [List.cons_append, identifierLength?] at h
    split at h
    · rename_i hstart
      rw [Option.getD_some, List.length_cons] at h
      have hrun : (rest ++ behind).takeWhile isIdentifierPart = rest.takeWhile isIdentifierPart :=
        takeWhile_append_of_length_le (by omega)
      rw [hrun] at h
      have hall : rest.takeWhile isIdentifierPart = rest :=
        (List.takeWhile_prefix _).eq_of_length (by omega)
      refine ⟨by rw [identifierLength?, if_pos hstart, hall, Option.getD_some, List.length_cons,
        Nat.add_comm], List.forall_mem_cons.mpr ⟨?_, List.takeWhile_eq_self_iff.mp hall⟩⟩
      exact isIdentifierPart_of_isIdentifierStart hstart
    · simp at h

/-- The suffix of a number is an identifier, and no identifier goes on behind it. -/
theorem withSuffix?_eq_some_iff {text : List Char} {digits length : Nat} :
    withSuffix? text digits = some length ↔
      digits + (identifierLength? (text.drop digits)).getD 0 = length ∧
        ∀ c ∈ (text.drop length).head?, isIdentifierPart c = false := by
  unfold withSuffix?
  extract_lets whole
  cases hdrop : text.drop whole with
  | nil => grind
  | cons c rest => grind

/-- A number that reaches to the end of a text has its suffix without what follows it. -/
theorem withSuffix?_append {front behind : List Char} {digits : Nat}
    (h : withSuffix? (front ++ behind) digits = some front.length) :
    digits ≤ front.length ∧ withSuffix? front digits = some front.length ∧
      ∀ c ∈ front.drop digits, isIdentifierPart c = true := by
  obtain ⟨hlength, _⟩ := withSuffix?_eq_some_iff.mp h
  have hdigits : digits ≤ front.length := by omega
  rw [List.drop_append_of_le_length hdigits] at hlength
  have htail : (identifierLength? (front.drop digits ++ behind)).getD 0 =
      (front.drop digits).length := by
    rw [List.length_drop]
    omega
  obtain ⟨hsuffix, hparts⟩ := identifierLength?_append htail
  refine ⟨hdigits, withSuffix?_eq_some_iff.mpr ⟨?_, by simp⟩, hparts⟩
  rw [hsuffix, List.length_drop]
  omega

/-- Every digit may stand in an identifier. -/
theorem isIdentifierPart_of_hexValue? {c : Char} {digit : Nat} (h : hexValue? c = some digit) :
    isIdentifierPart c = true := by
  have hletter : c.isDigit = true ∨ c.isAlpha = true := by
    simp only [hexValue?, Bool.and_eq_true, decide_eq_true_eq, Char.le_def,
      UInt32.le_iff_toNat_le] at h
    have halpha : c.isAlpha = (decide (65 ≤ c.val ∧ c.val ≤ 90) ||
        (decide (97 ≤ c.val) && decide (c.val ≤ 122))) := rfl
    simp only [halpha, Bool.or_eq_true, Bool.and_eq_true, decide_eq_true_eq,
      UInt32.le_iff_toNat_le]
    have hf : 'f'.val.toNat ≤ 122 := by decide
    have hF : 'F'.val.toNat ≤ 90 := by decide
    have ha : 'a'.val.toNat = 97 := by decide
    have hA : 'A'.val.toNat = 65 := by decide
    grind
  rcases hletter with hdigit | halpha
  · simp [isIdentifierPart, hdigit]
  · simp [isIdentifierPart, isIdentifierStart, halpha]

/-- Digits are parts of words. -/
theorem isIdentifierPart_of_digitsLength? {base : Nat} {empty : Bool} {text : List Char}
    {length : Nat} (h : digitsLength? base empty text = some length) :
    ∀ c ∈ text.take length, isIdentifierPart c = true := by
  induction text generalizing empty length with
  | nil => simp
  | cons c rest ih =>
    have hinner {empty : Bool} (hc : isIdentifierPart c = true)
        (h : (digitsLength? base empty rest).map (· + 1) = some length) :
        ∀ d ∈ (c :: rest).take length, isIdentifierPart d = true := by
      obtain ⟨more, hmore, rfl⟩ := Option.map_eq_some_iff.mp h
      rw [List.take_succ_cons]
      exact List.forall_mem_cons.mpr ⟨hc, ih hmore⟩
    have hpart (digit : Nat) : hexValue? c = some digit → isIdentifierPart c = true :=
      isIdentifierPart_of_hexValue?
    have hgap : isIdentifierPart '_' = true := by decide
    rw [digitsLength?] at h
    grind

/-- An integer without its suffix holds only characters of identifiers. -/
theorem isIdentifierPart_of_intDigits? {text : List Char} {digits : Nat}
    (h : intDigits? text = some digits) : ∀ c ∈ text.take digits, isIdentifierPart c = true := by
  have hbased {mark : Char} (hmark : isIdentifierPart mark = true) {base : Nat} {rest : List Char}
      (h : (digitsLength? base true rest).map (· + 2) = some digits) :
      ∀ c ∈ ('0' :: mark :: rest).take digits, isIdentifierPart c = true := by
    obtain ⟨more, hmore, rfl⟩ := Option.map_eq_some_iff.mp h
    have hrest := isIdentifierPart_of_digitsLength? hmore
    rw [List.take_succ_cons, List.take_succ_cons]
    exact List.forall_mem_cons.mpr ⟨by decide, List.forall_mem_cons.mpr ⟨hmark, hrest⟩⟩
  unfold intDigits? at h
  split at h
  · exact hbased (by decide) h
  · exact hbased (by decide) h
  · exact hbased (by decide) h
  · exact isIdentifierPart_of_digitsLength? h

/-! ### Lengths -/

/-- An identifier ends within the text. -/
theorem identifierLength?_le (text : List Char) :
    (identifierLength? text).getD 0 ≤ text.length := by
  cases text with
  | nil => simp [identifierLength?]
  | cons c rest =>
    have hrun := (List.takeWhile_prefix isIdentifierPart (l := rest)).length_le
    rw [identifierLength?]
    split
    · rw [Option.getD_some, List.length_cons]
      omega
    · simp

/-- The end of a float is within the text. -/
theorem floatTail?_le {whole length : Nat} {pointed : Bool} {text : List Char}
    (h : floatTail? whole pointed text = some length) : length ≤ whole + text.length := by
  unfold floatTail? at h
  grind [→ exponentLength?_bounds]

/-- A float ends within the text behind its first digits. -/
theorem pointTail?_le {whole length : Nat} {text : List Char}
    (h : pointTail? whole text = some length) : length ≤ whole + text.length := by
  unfold pointTail? at h
  split at h
  · split at h
    · rename_i rest d more
      have htail := floatTail?_le (Option.ite_none_left_eq_some.mp h).2
      have hrun := (List.takeWhile_prefix isDigitOrGap (l := d :: more)).length_le
      rw [List.length_drop] at htail
      rw [List.length_cons]
      omega
    · have hlength := Option.some.inj h
      rw [List.length_singleton]
      omega
  · exact floatTail?_le h

/-- The digits of a float end within the text. -/
theorem floatDigits?_le {text : List Char} {length : Nat} (h : floatDigits? text = some length) :
    length ≤ text.length := by
  obtain ⟨_, htail⟩ := floatDigits?_eq_some_iff.mp h
  have hle := pointTail?_le htail
  have hwhole := (List.takeWhile_prefix isDigitOrGap (l := text)).length_le
  rw [List.length_drop] at hle
  omega

/-- A raw text ends within the text. -/
theorem fenced?_le {kind : QuotedKind} {text : List Char} {read : Nat × List Char}
    (h : fenced? kind text = some read) : read.1 ≤ text.length := by
  obtain ⟨fence, rest, inner, rfl, hrest, _, hinner, rfl⟩ := fenced?_eq_some_iff.mp h
  have hraw := (raw?_bounds hinner).2
  have hlength := congrArg List.length hrest
  rw [List.length_drop, List.length_cons] at hlength
  omega

/-- A quoted text ends within the text. -/
theorem quoted?_le {text : List Char} {read : Quoted} (h : quoted? text = some read) :
    read.length ≤ text.length := by
  unfold quoted? at h
  grind [Option.map_eq_some_iff, → cooked?_bounds, → fenced?_le]

/-- The content of single quotes and the closing one end within the text. -/
theorem singleLength?_le {kind : QuotedKind} {text : List Char} {length : Nat}
    (h : singleLength? kind text = some length) : length ≤ text.length := by
  obtain ⟨content, _, hclosed, rfl⟩ := singleLength?_eq_some_iff.mp h
  have hinside : text.drop content ≠ [] := by
    intro hnil
    simp [hnil] at hclosed
  have hlt : content < text.length := by simpa using hinside
  exact hlt

/-- A literal in single quotes ends within the text. -/
theorem single?_le {text : List Char} {read : QuotedKind × Nat} (h : single? text = some read) :
    read.2 ≤ text.length := by
  unfold single? at h
  grind [Option.map_eq_some_iff, → singleLength?_le]

/-- Digits end within the text. -/
theorem digitsLength?_le {base : Nat} {empty : Bool} {text : List Char} {length : Nat}
    (h : digitsLength? base empty text = some length) : length ≤ text.length := by
  induction text generalizing empty length with
  | nil =>
    unfold digitsLength? at h
    grind
  | cons c rest ih =>
    rw [digitsLength?] at h
    grind [Option.map_eq_some_iff]

/-- An integer ends within the text. -/
theorem intDigits?_le {text : List Char} {digits : Nat} (h : intDigits? text = some digits) :
    digits ≤ text.length := by
  unfold intDigits? at h
  grind [Option.map_eq_some_iff, → digitsLength?_le]

/-- A suffix ends within the text if the number in front of it does. -/
theorem withSuffix?_le {text : List Char} {digits length : Nat} (hdigits : digits ≤ text.length)
    (h : withSuffix? text digits = some length) : length ≤ text.length := by
  have hlength := (withSuffix?_eq_some_iff.mp h).1
  have hword := identifierLength?_le (text.drop digits)
  rw [List.length_drop] at hword
  omega

/-- A number ends within the text. -/
theorem numberLength?_le {text : List Char} {length : Nat} (h : numberLength? text = some length) :
    length ≤ text.length := by
  unfold numberLength? at h
  split at h
  · rename_i hfloat
    obtain rfl := Option.some.inj h
    obtain ⟨digits, hdigits, hsuffix⟩ := Option.bind_eq_some_iff.mp hfloat
    exact withSuffix?_le (floatDigits?_le hdigits) hsuffix
  · obtain ⟨digits, hdigits, hsuffix⟩ := Option.bind_eq_some_iff.mp h
    exact withSuffix?_le (intDigits?_le hdigits) hsuffix

/-- A literal ends within the text. -/
theorem literalLength?_le {text : List Char} {length : Nat}
    (h : literalLength? text = some length) : length ≤ text.length := by
  have htail {front : Nat} (hfront : front ≤ text.length) :
      literalLength?.withTail text front ≤ text.length := by
    have hword := identifierLength?_le (text.drop front)
    rw [List.length_drop] at hword
    rw [literalLength?.withTail]
    omega
  unfold literalLength? at h
  grind [→ quoted?_le, → single?_le, → numberLength?_le]

/-! ### Literals -/

/-- Where a literal in single quotes starts, no text in double quotes does. -/
theorem quoted?_of_single? {text : List Char} {read : QuotedKind × Nat}
    (h : single? text = some read) : quoted? text = none := by
  unfold single? at h
  split at h
  · rfl
  · rfl
  · simp at h

/-- A number that consists of parts of words is read to its end or not at all. -/
theorem withSuffix?_of_isIdentifierPart {text : List Char}
    (hparts : ∀ c ∈ text, isIdentifierPart c = true) {digits length : Nat}
    (hdigits : digits ≤ text.length) (h : withSuffix? text digits = some length) :
    length = text.length := by
  obtain ⟨_, hnext⟩ := withSuffix?_eq_some_iff.mp h
  have hle := withSuffix?_le hdigits h
  have hdrop : (text.drop length).head? = none := by
    refine Option.eq_none_iff_forall_not_mem.mpr fun c hc => ?_
    have hpart := hparts c (List.mem_of_mem_drop (List.mem_of_mem_head? hc))
    simp [hnext c hc] at hpart
  have hend : text.length ≤ length := by simpa using hdrop
  omega

/-- A number that ends with the front part of a text is a number without the back part. -/
theorem numberLength?_append {front behind : List Char}
    (h : numberLength? (front ++ behind) = some front.length) :
    numberLength? front = some front.length := by
  unfold numberLength? at h ⊢
  split at h
  · rename_i hfloat
    obtain rfl := Option.some.inj h
    obtain ⟨digits, hdigits, hsuffix⟩ := Option.bind_eq_some_iff.mp hfloat
    obtain ⟨hinside, hfront, _⟩ := withSuffix?_append hsuffix
    simp [frontDetermined_floatDigits? hdigits hinside, hfront]
  · obtain ⟨digits, hdigits, hsuffix⟩ := Option.bind_eq_some_iff.mp h
    obtain ⟨hinside, hfront, htail⟩ := withSuffix?_append hsuffix
    have hint := frontDetermined_intDigits? hdigits hinside
    have hparts : ∀ c ∈ front, isIdentifierPart c = true := by
      rw [← List.take_append_drop digits front]
      exact List.forall_mem_append.mpr ⟨isIdentifierPart_of_intDigits? hint, htail⟩
    split
    · rename_i length hfloat
      obtain ⟨float, hread, hend⟩ := Option.bind_eq_some_iff.mp hfloat
      rw [withSuffix?_of_isIdentifierPart hparts (floatDigits?_le hread) hend]
    · simp [hint, hfront]

/-- A literal is the same one without what follows it. -/
theorem literalLength?_append {front behind : List Char}
    (h : literalLength? (front ++ behind) = some front.length) :
    literalLength? front = some front.length := by
  -- A literal may have a suffix, which ends with the front part as well.
  have htail {length : Nat} (h : literalLength?.withTail (front ++ behind) length = front.length) :
      length ≤ front.length ∧ literalLength?.withTail front length = front.length := by
    have hinside : length ≤ front.length := by
      rw [← h, literalLength?.withTail]
      omega
    rw [literalLength?.withTail, List.drop_append_of_le_length hinside] at h
    have hword : (identifierLength? (front.drop length ++ behind)).getD 0 =
        (front.drop length).length := by
      rw [List.length_drop]
      omega
    refine ⟨hinside, ?_⟩
    rw [literalLength?.withTail, (identifierLength?_append hword).1, List.length_drop]
    omega
  unfold literalLength? at h ⊢
  split at h
  · rename_i read hread
    obtain ⟨hinside, hend⟩ := htail (Option.some.inj h)
    simp only [frontDetermined_quoted? hread hinside, hend]
  · split at h
    · rename_i read hread
      obtain ⟨hinside, hend⟩ := htail (Option.some.inj h)
      have hsingle := frontDetermined_single? hread hinside
      simp only [quoted?_of_single? hsingle, hsingle, hend]
    · have hnumber := numberLength?_append h
      obtain ⟨c, rest, rfl, hdigit⟩ := isDigit_of_numberLength? hnumber
      obtain ⟨hquoted, hsingle⟩ := LitKind.quoted?_of_isDigit hdigit rest
      simp only [hquoted, hsingle, hnumber]

/-- Where the lexer cuts off a literal, one starts, or the placeholder does. -/
theorem literalLength?_of_piece? {text : List Char} {length : Nat}
    (h : piece? text = some (.literal, length)) :
    literalLength? text = some length ∨ placeholder <+: text ∧ length = placeholder.length := by
  have hleaf : leaf? text = some (.literal, length) := by
    unfold piece? delimiter? at h
    grind
  rw [← List.isPrefixOf_iff_prefix]
  unfold leaf? punct? at hleaf
  grind

/-- The characters that the lexer cuts off as a literal are one. -/
theorem isLiteral_of_piece? {text : List Char} {length : Nat}
    (h : piece? text = some (.literal, length)) : IsLiteral (text.take length) := by
  have hlength : length ≤ text.length := by
    rcases literalLength?_of_piece? h with hliteral | ⟨hplaceholder, rfl⟩
    · exact literalLength?_le hliteral
    · exact hplaceholder.length_le
  refine ⟨text.drop length, ?_⟩
  rw [List.take_append_drop, List.length_take_of_le hlength, h]

/-- A literal is read to its end without what followed it, unless it is the placeholder. -/
theorem IsLiteral.literalLength? {literal : List Char} (h : IsLiteral literal)
    (hne : literal ≠ placeholder) : Lexer.literalLength? literal = some literal.length := by
  obtain ⟨behind, hpiece⟩ := h
  rcases literalLength?_of_piece? hpiece with hliteral | ⟨hplaceholder, hlength⟩
  · exact literalLength?_append hliteral
  · have hfront := List.prefix_of_prefix_length_le hplaceholder (List.prefix_append literal behind)
      hlength.ge
    exact absurd (hfront.eq_of_length hlength.symm).symm hne

end Lexer

end ValuedEnum
