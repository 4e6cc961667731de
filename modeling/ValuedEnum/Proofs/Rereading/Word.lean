import ValuedEnum.Proofs.Rereading.Lexer
import ValuedEnum.Proofs.UnitNames

/-!
# Words

A word is an identifier, perhaps behind the mark of raw ones. The lexer cuts nothing else off a text
as a word. Where nothing follows that could belong to a word, it cuts the word off again.
-/

namespace ValuedEnum

namespace Text

/-- The code points of the blanks. -/
def blankCodes : List Nat :=
  [0x20, 0x9, 0xA, 0xB, 0xC, 0xD, 0x85, 0xA0, 0x1680, 0x2000, 0x2001, 0x2002, 0x2003, 0x2004,
    0x2005, 0x2006, 0x2007, 0x2008, 0x2009, 0x200A, 0x200E, 0x200F, 0x2028, 0x2029, 0x202F, 0x205F,
    0x3000]

/-- The blanks are those that are listed. -/
theorem toNat_mem_blankCodes {c : Char} (h : isBlank c = true) : c.toNat ∈ blankCodes := by
  simp only [isBlank, Bool.or_eq_true, Bool.and_eq_true, beq_iff_eq, decide_eq_true_eq] at h
  simp only [blankCodes, List.mem_cons, List.not_mem_nil, or_false]
  omega

/-- Letters of the alphabet are within these bounds. -/
theorem bounds_of_isAlpha {c : Char} (h : c.isAlpha = true) : 65 ≤ c.toNat ∧ c.toNat ≤ 122 := by
  have hcases : c.isUpper = true ∨ c.isLower = true := (Bool.or_eq_true _ _).mp h
  rcases hcases with hupper | hlower
  · have hbounds : 65 ≤ c.toNat ∧ c.toNat ≤ 90 := of_decide_eq_true hupper
    omega
  · obtain ⟨hlow, hhigh⟩ := (Bool.and_eq_true _ _).mp hlower
    have hleft : 97 ≤ c.toNat := of_decide_eq_true hlow
    have hright : c.toNat ≤ 122 := of_decide_eq_true hhigh
    omega

/-- An identifier starts with an underscore, a letter or another code point of the table. -/
theorem bounds_of_isIdentifierStart {c : Char} (h : isIdentifierStart c = true) :
    65 ≤ c.toNat ∧ c.toNat ≤ 122 ∨
      127 < c.toNat ∧ inRanges identifierStartRanges c = true := by
  simp only [isIdentifierStart, Bool.or_eq_true, Bool.and_eq_true, beq_iff_eq,
    decide_eq_true_eq] at h
  rcases h with (rfl | halpha) | hother
  · exact .inl (by decide)
  · exact .inl (bounds_of_isAlpha halpha)
  · exact .inr hother

/-- No blank starts an identifier. -/
theorem isBlank_of_isIdentifierStart {c : Char} (h : isIdentifierStart c = true) :
    isBlank c = false := by
  cases hblank : isBlank c with
  | false => rfl
  | true =>
    have hcode := toNat_mem_blankCodes hblank
    rcases bounds_of_isIdentifierStart h with ⟨hlow, hhigh⟩ | ⟨-, hranges⟩
    · have hascii : ∀ code ∈ blankCodes, code < 65 ∨ 122 < code := by decide
      have hletter := hascii _ hcode
      omega
    · have houter : ∀ code ∈ blankCodes, (identifierStartRanges.toList.any fun range =>
          range.1 ≤ code && code ≤ range.2) = false := by
        decide +kernel
      rw [inRanges, ← Array.any_toList, houter _ hcode] at hranges
      exact absurd hranges (by decide)

/-- No identifier starts with a digit. -/
theorem isDigit_of_isIdentifierStart {c : Char} (h : isIdentifierStart c = true) :
    c.isDigit = false := by
  have hbounds := bounds_of_isIdentifierStart h
  rw [Bool.eq_false_iff, Ne, Char.isDigit_iff_toNat]
  have hzero : '9'.toNat = 57 := rfl
  omega

/-- An identifier is not empty. -/
theorem exists_cons_of_isIdentifier {word : List Char} (h : isIdentifier word = true) :
    ∃ c rest, word = c :: rest ∧ isIdentifierStart c = true := by
  cases word with
  | nil => simp [isIdentifier] at h
  | cons c rest => exact ⟨c, rest, rfl, (Bool.and_eq_true_iff.mp h).1⟩

/-- The characters of an identifier at the front of a text are an identifier. -/
theorem isIdentifier_take {text : List Char} {length : Nat}
    (h : identifierLength? text = some length) : isIdentifier (text.take length) = true := by
  cases text with
  | nil => simp [identifierLength?] at h
  | cons c rest =>
    simp only [identifierLength?, Option.ite_none_right_eq_some, Option.some.injEq] at h
    obtain ⟨hstart, rfl⟩ := h
    have htake : rest.take (rest.takeWhile isIdentifierPart).length =
        rest.takeWhile isIdentifierPart :=
      (List.prefix_iff_eq_take.mp (List.takeWhile_prefix isIdentifierPart)).symm
    rw [Nat.add_comm, List.take_succ_cons, htake, isIdentifier, hstart, Bool.true_and]
    exact List.all_takeWhile

/-- An identifier is cut off where something else follows. -/
theorem identifierLength?_of_isIdentifier {word : List Char} (h : isIdentifier word = true)
    {behind : List Char} (hbehind : ∀ c ∈ behind.head?, isIdentifierPart c = false) :
    identifierLength? (word ++ behind) = some word.length := by
  cases word with
  | nil => simp [isIdentifier] at h
  | cons c rest =>
    obtain ⟨hstart, hrest⟩ : isIdentifierStart c = true ∧ ∀ d ∈ rest, isIdentifierPart d = true := by
      simpa [isIdentifier] using h
    have hend : behind.takeWhile isIdentifierPart = [] := by
      cases behind with
      | nil => rfl
      | cons d more => simp [hbehind d rfl]
    rw [List.cons_append, identifierLength?, if_pos hstart, List.takeWhile_append_of_pos hrest, hend,
      List.append_nil, List.length_cons, Nat.add_comm]

end Text

namespace Lexer

open Text

/-- What the lexer takes for a word. -/
inductive IsWord : List Char → Prop
  | plain {word : List Char} (h : isIdentifier word = true) : IsWord word
  | raw {word : List Char} (h : isIdentifier word = true) (hraw : neverRaw word = false) :
    IsWord ('r' :: '#' :: word)

/-- What the lexer cuts off as a word is one. -/
theorem isWord_of_wordLength? {text : List Char} {length : Nat}
    (h : wordLength? text = some length) : IsWord (text.take length) := by
  unfold wordLength? at h
  split at h
  · rename_i rest
    simp only [Option.bind_eq_some_iff, Option.ite_none_left_eq_some, Option.some.injEq] at h
    obtain ⟨word, hword, hraw, rfl⟩ := h
    rw [List.take_succ_cons, List.take_succ_cons]
    exact .raw (isIdentifier_take hword) (by simpa using hraw)
  · exact .plain (isIdentifier_take h)

/-- What is cut off a text as a word is one. -/
theorem isWord_of_piece? {text : List Char} {length : Nat}
    (h : piece? text = some (.ident, length)) : IsWord (text.take length) := by
  have hleaf : leaf? text = some (.ident, length) := by
    unfold piece? delimiter? at h
    grind
  have hident : identLength? text = some length := by
    unfold leaf? punct? at hleaf
    grind
  have hword : wordLength? text = some length := by
    simpa [identLength?] using (Option.ite_none_left_eq_some.mp hident).2
  exact isWord_of_wordLength? hword

/-- No blank stands in a word. -/
theorem IsWord.blank_notMem {word : List Char} (h : IsWord word) : ' ' ∉ word := by
  have hplain {word : List Char} (h : isIdentifier word = true) : ' ' ∉ word := fun hmem =>
    absurd (isIdentifierPart_of_isIdentifier h ' ' hmem) (by decide)
  cases h with
  | plain hword => exact hplain hword
  | raw hword hraw => simpa using hplain hword

/-- A word has a first character, with which an identifier can start. -/
theorem IsWord.exists_cons {word : List Char} (h : IsWord word) :
    ∃ c rest, word = c :: rest ∧ isIdentifierStart c = true := by
  cases h with
  | plain hword => exact exists_cons_of_isIdentifier hword
  | raw hword hraw => exact ⟨'r', _, rfl, by decide⟩

/-- What may follow a word: nothing that the lexer would take for a part of it, or for the opening
of a literal that the word is the front of. -/
def EndsWord (behind : List Char) : Prop :=
  ∀ c ∈ behind.head?, isIdentifierPart c = false ∧ c ∉ ['\x22', '\x27', '#']

/-- No identifier starts with a sign. -/
theorem notMem_signs {c : Char} (h : isIdentifierStart c = true) : c ∉ signs := by
  have hsigns : signs.any isIdentifierStart = false := by decide
  exact fun hmem => List.any_eq_false.mp hsigns c hmem h

/-- A word may end with the text. -/
theorem endsWord_nil : EndsWord [] := by simp [EndsWord]

/-- A word ends in front of a character that belongs to no word and opens no literal. -/
theorem endsWord_cons {c : Char} (h : isIdentifierPart c = false)
    (hmarks : c ∉ ['\x22', '\x27', '#']) (rest : List Char) : EndsWord (c :: rest) := by
  intro d hd
  obtain rfl : c = d := Option.some.inj hd
  exact ⟨h, hmarks⟩

/-- A fence and its quote start in one of three ways. -/
theorem fronts_of_fenced? {kind : QuotedKind} {text : List Char} {read : Nat × List Char}
    (h : fenced? kind text = some read) :
    ['\x22'] <+: text ∨ ['#', '\x22'] <+: text ∨ ['#', '#'] <+: text := by
  obtain ⟨fence, rest, inner, hfence, hrest, -⟩ := fenced?_eq_some_iff.mp h
  have htext : fence ++ '\x22' :: rest = text := by
    rw [← hrest, ← hfence]
    exact (List.prefix_iff_eq_append.mp (List.takeWhile_prefix _))
  have hmarks : ∀ c ∈ fence, c = '#' := by
    intro c hc
    rw [← hfence] at hc
    simpa using List.mem_takeWhile_imp hc
  match fence, htext, hmarks with
  | [], htext, _ => exact .inl ⟨rest, htext⟩
  | [mark], htext, hmarks =>
    obtain rfl : mark = '#' := hmarks mark (by simp)
    exact .inr (.inl ⟨rest, htext⟩)
  | first :: second :: more, htext, hmarks =>
    obtain rfl : first = '#' := hmarks first (by simp)
    obtain rfl : second = '#' := hmarks second (by simp)
    exact .inr (.inr ⟨_, htext⟩)

/-- So a letter in front of them makes one of the fronts. -/
theorem fronts_of_marked {kind : QuotedKind} {text : List Char} {read : Nat × List Char}
    (mark : List Char) (h : fenced? kind text = some read)
    (hmark : ∀ opening ∈ [['\x22'], ['#', '\x22'], ['#', '#']],
      ∃ front ∈ literalFronts, front <+: mark ++ opening) :
    ∃ front ∈ literalFronts, front <+: mark ++ text := by
  have hopening : ∃ opening ∈ [['\x22'], ['#', '\x22'], ['#', '#']], opening <+: text := by
    simpa using fronts_of_fenced? h
  obtain ⟨opening, hmem, hprefix⟩ := hopening
  obtain ⟨front, hfront, hmarked⟩ := hmark opening hmem
  exact ⟨front, hfront, hmarked.trans ((List.prefix_append_right_inj mark).mpr hprefix)⟩

/-- A quoted literal that does not start with its quote starts with one of the fronts. -/
theorem fronts_of_quoted? {text : List Char} {read : Quoted} (h : quoted? text = some read) :
    ['\x22'] <+: text ∨ ∃ front ∈ literalFronts, front <+: text := by
  unfold quoted? at h
  split at h
  · exact .inl (List.prefix_append ['\x22'] _)
  · obtain ⟨read, hread, -⟩ := Option.map_eq_some_iff.mp h
    exact .inr (fronts_of_marked ['r'] hread (by decide))
  · exact .inr ⟨['b', '\x22'], by decide, List.prefix_append ['b', '\x22'] _⟩
  · obtain ⟨read, hread, -⟩ := Option.map_eq_some_iff.mp h
    exact .inr (fronts_of_marked ['b', 'r'] hread (by decide))
  · exact .inr ⟨['c', '\x22'], by decide, List.prefix_append ['c', '\x22'] _⟩
  · obtain ⟨read, hread, -⟩ := Option.map_eq_some_iff.mp h
    exact .inr (fronts_of_marked ['c', 'r'] hread (by decide))
  · simp at h

/-- A literal in single quotes starts with the quote or with one of the fronts of literals. -/
theorem fronts_of_single? {text : List Char} {read : QuotedKind × Nat}
    (h : single? text = some read) :
    ['\x27'] <+: text ∨ ∃ front ∈ literalFronts, front <+: text := by
  unfold single? at h
  split at h
  · exact .inl (List.prefix_append ['\x27'] _)
  · exact .inr ⟨['b', '\x27'], by decide, List.prefix_append ['b', '\x27'] _⟩
  · simp at h

/-- No literal starts like an identifier unless it starts with one of the fronts. -/
theorem literalLength?_eq_none {c : Char} {rest : List Char} (hstart : isIdentifierStart c = true)
    (hfronts : ∀ front ∈ literalFronts, ¬ front <+: c :: rest) :
    literalLength? (c :: rest) = none := by
  have hquote {quote : Char} (hno : isIdentifierStart quote = false) : ¬ [quote] <+: c :: rest := by
    intro hprefix
    obtain rfl : quote = c := (List.cons_prefix_cons.mp hprefix).1
    simp [hno] at hstart
  have hquoted : quoted? (c :: rest) = none := by
    refine Option.eq_none_iff_forall_not_mem.mpr fun read hread => ?_
    rcases fronts_of_quoted? hread with hprefix | ⟨front, hmem, hprefix⟩
    · exact hquote (by decide) hprefix
    · exact hfronts front hmem hprefix
  have hsingle : single? (c :: rest) = none := by
    refine Option.eq_none_iff_forall_not_mem.mpr fun read hread => ?_
    rcases fronts_of_single? hread with hprefix | ⟨front, hmem, hprefix⟩
    · exact hquote (by decide) hprefix
    · exact hfronts front hmem hprefix
  have hnumber : numberLength? (c :: rest) = none := by
    refine Option.eq_none_iff_forall_not_mem.mpr fun length hlength => ?_
    obtain ⟨d, more, htext, hdigit⟩ := isDigit_of_numberLength? hlength
    obtain rfl : c = d := (List.cons.inj htext).1
    simp [isDigit_of_isIdentifierStart hstart] at hdigit
  simp only [literalLength?, hquoted, hsingle, hnumber]

/-- A word and what may follow it do not start like a literal. -/
theorem IsWord.not_front {word behind : List Char} (h : IsWord word) (hbehind : EndsWord behind) :
    ∀ front ∈ literalFronts, ¬ front <+: word ++ behind := by
  rintro front hfront ⟨tail, htail⟩
  cases h with
  | plain hword =>
    -- Each front is a word with one of the marks behind it.
    have hmarked : ∀ front ∈ literalFronts, ((front.dropWhile isIdentifierPart).head?.any
        fun mark => ['\x22', '\x27', '#'].contains mark) = true := by
      decide
    obtain ⟨mark, hmark, hmem⟩ := (Option.any_eq_true _ _).mp (hmarked front hfront)
    have hfilled : front.dropWhile isIdentifierPart ≠ [] := by
      intro hnil
      simp [hnil] at hmark
    have hmarkFirst : ((front ++ tail).dropWhile isIdentifierPart).head? = some mark := by
      rw [List.dropWhile_append, if_neg (by simpa using hfilled), List.head?_append, hmark,
        Option.some_or]
    have hbehindFirst : (word ++ behind).dropWhile isIdentifierPart = behind := by
      rw [List.dropWhile_append_of_pos (isIdentifierPart_of_isIdentifier hword)]
      cases behind with
      | nil => rfl
      | cons c rest => simp [(hbehind c rfl).1]
    rw [htail, hbehindFirst] at hmarkFirst
    exact (hbehind mark hmarkFirst).2 (List.contains_iff_mem.mp hmem)
  | raw hword hraw =>
    obtain ⟨c, rest, rfl, hstart⟩ := exists_cons_of_isIdentifier hword
    have hquote : c ≠ '\x22' := by
      rintro rfl
      exact absurd hstart (by decide)
    have hmark : c ≠ '#' := by
      rintro rfl
      exact absurd hstart (by decide)
    simp only [literalFronts, List.mem_cons, List.not_mem_nil, or_false] at hfront
    grind

/-- A word is cut off with its full length. -/
theorem IsWord.identLength? {word behind : List Char} (h : IsWord word)
    (hbehind : EndsWord behind) : Lexer.identLength? (word ++ behind) = some word.length := by
  have hend : ∀ c ∈ behind.head?, isIdentifierPart c = false := fun c hc => (hbehind c hc).1
  have hfronts : literalFronts.any (·.isPrefixOf (word ++ behind)) = false := by
    simpa [List.isPrefixOf_iff_prefix] using h.not_front hbehind
  have hword : wordLength? (word ++ behind) = some word.length := by
    cases h with
    | plain hword =>
      unfold wordLength?
      split
      · rename_i rest htext
        -- The mark would have to be a part of the word or to follow it.
        obtain ⟨c, more, rfl, -⟩ := exists_cons_of_isIdentifier hword
        have hmore : more ++ behind = '#' :: rest := (List.cons.inj htext).2
        cases more with
        | nil => exact absurd (by decide) (hbehind '#' (by simp_all)).2
        | cons d more =>
          have hpart := isIdentifierPart_of_isIdentifier hword d (by simp)
          obtain rfl : d = '#' := (List.cons.inj hmore).1
          exact absurd hpart (by decide)
      · exact identifierLength?_of_isIdentifier hword hend
    | raw hword hraw =>
      rename_i bare
      change ((identifierLength? (bare ++ behind)).bind fun length =>
        if neverRaw ((bare ++ behind).take length) then none else some (length + 2)) = _
      rw [identifierLength?_of_isIdentifier hword hend, Option.bind_some, List.take_left, hraw]
      rfl
  rw [Lexer.identLength?, hfronts]
  exact hword

/-- A word is cut off where nothing else follows that belongs to it. -/
theorem IsWord.piece? {word behind : List Char} (h : IsWord word) (hbehind : EndsWord behind) :
    Lexer.piece? (word ++ behind) = some (.ident, word.length) := by
  have hident := h.identLength? hbehind
  have hfronts := h.not_front hbehind
  obtain ⟨c, rest, rfl, hstart⟩ := h.exists_cons
  rw [List.cons_append] at hident hfronts ⊢
  have hne {d : Char} (hd : isIdentifierStart d = false) : c ≠ d := by
    rintro rfl
    simp [hd] at hstart
  have hcomment : comment? (c :: (rest ++ behind)) = none := by
    have hslash : c ≠ '/' := hne (by decide)
    unfold comment?
    split <;> simp_all
  have hdelimiter : delimiter? c = none := by
    simp only [delimiter?]
    rw [if_neg (hne (by decide)), if_neg (hne (by decide)), if_neg (hne (by decide)),
      if_neg (hne (by decide)), if_neg (hne (by decide)), if_neg (hne (by decide))]
  have hpunct : punct? (c :: (rest ++ behind)) = none := by
    simp [punct?, startsSign, notMem_signs hstart]
  simp only [Lexer.piece?, isBlank_of_isIdentifierStart hstart, hcomment, hdelimiter, leaf?,
    literalLength?_eq_none hstart hfronts, hpunct, hident]
  rfl

end Lexer

/-- A word as the lexer cuts it off a text. -/
def Ident.IsWord (ident : Ident) : Prop := Lexer.IsWord ident.text.toList

/-- A word that the lexer cuts off is an identifier. -/
theorem Ident.IsWord.isIdentifier {ident : Ident} (h : ident.IsWord) : ident.IsIdentifier := by
  unfold IsWord at h
  generalize htext : ident.text.toList = word at h
  cases h with
  | plain hword => exact isIdentifier_of_text (htext ▸ hword)
  | raw hword hraw =>
    rename_i word
    have hbare : ident.bare = String.ofList word := by
      simp only [bare, htext]
    rw [IsIdentifier, hbare, String.toList_ofList]
    exact hword

end ValuedEnum
