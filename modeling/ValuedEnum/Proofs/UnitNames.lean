import ValuedEnum.Found

/-!
# Names of units inside of modules

A unit is named after the modules around its enumeration. This file reads the modules back from the
qualified name of an enumeration, and proves that a module around it comes first in the unit's name.
So the name is the path of modules, the wrapper and `rs`, with dots between them, and it tells all of
them: `unitName_qualified_eq_iff`.
-/

namespace ValuedEnum

/-- A word as it is read from a text: an identifier, perhaps behind the mark of raw ones. -/
def Ident.IsIdentifier (ident : Ident) : Prop := Text.isIdentifier ident.bare.toList = true

instance (ident : Ident) : Decidable ident.IsIdentifier :=
  inferInstanceAs (Decidable (Text.isIdentifier ident.bare.toList = true))

namespace Text

/-- An identifier is made of the characters for identifiers. -/
theorem isIdentifierPart_of_isIdentifier {text : List Char} (h : isIdentifier text = true) :
    ∀ c ∈ text, isIdentifierPart c = true := by
  cases text with
  | nil => simp [isIdentifier] at h
  | cons first rest =>
    simp only [isIdentifier, Bool.and_eq_true, List.all_eq_true] at h
    intro c hc
    rcases List.mem_cons.mp hc with rfl | hc
    · exact isIdentifierPart_of_isIdentifierStart h.1
    · exact h.2 c hc

/-- An identifier may be continued by its parts. -/
theorem isIdentifier_append {front back : List Char} (hfront : isIdentifier front = true)
    (hback : back.all isIdentifierPart = true) : isIdentifier (front ++ back) = true := by
  cases front with
  | nil => simp [isIdentifier] at hfront
  | cons first rest =>
    obtain ⟨hfirst, hrest⟩ : isIdentifierStart first = true ∧ rest.all isIdentifierPart = true := by
      simpa [isIdentifier] using hfront
    rw [List.cons_append, isIdentifier, List.all_append, hfirst, hrest, hback]
    rfl

end Text

namespace Ident

/-- A word is its identifier, perhaps behind the mark of raw ones. -/
theorem toList_eq_bare (ident : Ident) :
    ident.text.toList = ident.bare.toList ∨
      ident.text.toList = 'r' :: '#' :: ident.bare.toList := by
  unfold bare
  split
  · rename_i rest htext
    exact .inr (by simp [htext])
  · exact .inl rfl

/-- A text that is an identifier has no mark in front. -/
theorem isIdentifier_of_text {ident : Ident} (h : Text.isIdentifier ident.text.toList = true) :
    ident.IsIdentifier := by
  have hbare : ident.bare = ident.text := by
    unfold bare
    split
    · rename_i rest hraw
      have hpart := Text.isIdentifierPart_of_isIdentifier h '#' (by simp [hraw])
      exact absurd hpart (by decide)
    · rfl
  rw [IsIdentifier, hbare]
  exact h

/-- Besides the mark of raw ones, a word holds characters for identifiers only. -/
theorem IsIdentifier.notMem {ident : Ident} (h : ident.IsIdentifier) {c : Char}
    (hpart : Text.isIdentifierPart c = false) (hmark : c ≠ '#') : c ∉ ident.text.toList := by
  have hbare : c ∉ ident.bare.toList := fun hc => by
    have hpart' := Text.isIdentifierPart_of_isIdentifier h c hc
    simp [hpart] at hpart'
  rcases ident.toList_eq_bare with htext | htext
  · rwa [htext]
  · have hr : c ≠ 'r' := by
      rintro rfl
      revert hpart
      decide
    simp [htext, hbare, hr, hmark]

/-- No colon stands in a word. -/
theorem IsIdentifier.colon_notMem {ident : Ident} (h : ident.IsIdentifier) :
    ':' ∉ ident.text.toList :=
  h.notMem (by decide) (by decide)

/-- No dot stands in a word. -/
theorem IsIdentifier.dot_notMem {ident : Ident} (h : ident.IsIdentifier) :
    '.' ∉ ident.text.toList :=
  h.notMem (by decide) (by decide)

end Ident

namespace UnitName

/-- An ending is dropped from behind a front. -/
theorem dropEnd?_append (front ending : List Char) :
    dropEnd? (front ++ ending) ending = some front := by
  have hsuffix : ending.isSuffixOf (front ++ ending) = true :=
    List.isSuffixOf_iff_suffix.mpr (List.suffix_append front ending)
  rw [dropEnd?, if_pos hsuffix, List.length_append, Nat.add_sub_cancel, List.take_left]

/-- A text without a colon stays as it is. -/
theorem dotted_append {front : List Char} (hfront : ':' ∉ front) (rest : List Char) :
    dotted (front ++ rest) = front ++ dotted rest := by
  induction front with
  | nil => rfl
  | cons c front ih =>
    obtain ⟨hc, hfront⟩ := not_or.mp (mt List.mem_cons.mpr hfront)
    have hstep : dotted (c :: (front ++ rest)) = c :: dotted (front ++ rest) := by
      rw [dotted.eq_2]
      rintro _ rfl
      exact absurd rfl hc
    rw [List.cons_append, hstep, ih hfront, List.cons_append]

/-- Parts without dots are read back from what they are joined to. -/
theorem intercalate_inj {parts others : List String} (hparts : ∀ part ∈ parts, '.' ∉ part.toList)
    (hothers : ∀ part ∈ others, '.' ∉ part.toList) (hfilled : parts ≠ []) (hfilled' : others ≠ [])
    (h : ".".intercalate parts = ".".intercalate others) : parts = others := by
  have hsplit {all : List String} (hall : ∀ part ∈ all, '.' ∉ part.toList) (hne : all ≠ []) :
      (".".intercalate all).toList.splitOn '.' = all.map String.toList := by
    have hdot : ".".toList = ['.'] := rfl
    rw [String.toList_intercalate, hdot]
    exact List.splitOn_intercalate '.' (by simpa using hall) (by simpa using hne)
  have hchars : parts.map String.toList = others.map String.toList := by
    rw [← hsplit hparts hfilled, ← hsplit hothers hfilled', h]
  exact (List.map_inj_right fun _ _ => String.toList_inj.mp).mp hchars

end UnitName

namespace Item

/-- A module around an enumeration comes first in its qualified name. -/
theorem qualified_cons (name : String) (modules : List String) (rest : String) :
    qualified (name :: modules) rest = name ++ "::" ++ qualified modules rest :=
  String.intercalate_cons_of_ne_nil (by simp)

/-- A qualified name is the path of its modules and a name behind it. -/
theorem qualified_eq (first : String) (modules : List String) (name : String) :
    qualified (first :: modules) name = "::".intercalate (first :: modules) ++ "::" ++ name := by
  rw [qualified, String.intercalate_append_of_ne_nil (by simp) (by simp),
    String.intercalate_singleton]

/-- The namespace of a qualified name is the path of its modules. -/
theorem namespaceOf?_qualified (first : String) (modules : List String) (name : String) :
    namespaceOf? (qualified (first :: modules) name) name =
      some ("::".intercalate (first :: modules)) := by
  have hchars : (qualified (first :: modules) name).toList =
      ("::".intercalate (first :: modules)).toList ++ [':', ':'] ++ name.toList := by
    rw [qualified_eq, String.toList_append, String.toList_append]
    rfl
  rw [namespaceOf?, hchars, UnitName.dropEnd?_append, Option.bind_some, UnitName.dropEnd?_append,
    Option.map_some, String.ofList_toList]

/-- Without modules there is no namespace. -/
theorem namespaceOf?_qualified_nil (name : String) :
    namespaceOf? (qualified [] name) name = none := by
  have hchars : (qualified [] name).toList = [] ++ name.toList := by simp [qualified]
  rw [namespaceOf?, hchars, UnitName.dropEnd?_append]
  rfl

/-- The unit of an enumeration inside of a module is named after that module first. -/
theorem unitName_qualified_cons {first : String} (hfirst : ':' ∉ first.toList)
    (modules : List String) (name wrapper : String) :
    unitName (namespaceOf? (qualified (first :: modules) name) name) wrapper =
      first ++ "." ++ unitName (namespaceOf? (qualified modules name) name) wrapper := by
  rw [namespaceOf?_qualified]
  cases modules with
  | nil =>
    rw [namespaceOf?_qualified_nil]
    have hdotted : UnitName.dotted first.toList = first.toList := by
      simpa [UnitName.dotted] using UnitName.dotted_append hfirst []
    simp [unitName, hdotted, String.append_assoc]
  | cons second modules =>
    have hdotted (rest : String) : String.ofList (UnitName.dotted (first ++ "::" ++ rest).toList) =
        first ++ "." ++ String.ofList (UnitName.dotted rest.toList) := by
      have hcolons : UnitName.dotted ("::".toList ++ rest.toList) =
          '.' :: UnitName.dotted rest.toList := rfl
      rw [String.toList_append, String.toList_append, List.append_assoc,
        UnitName.dotted_append hfirst, hcolons]
      simp [String.append_assoc]
    rw [namespaceOf?_qualified, String.intercalate_cons_cons, unitName, hdotted]
    simp only [unitName, String.append_assoc]

/-- The name of a unit is a list of words with dots between them, whatever its enumeration is named
like. -/
theorem unitName_qualified {modules : List Ident} (hmodules : ∀ word ∈ modules, word.IsIdentifier)
    (name wrapper : String) :
    unitName (namespaceOf? (qualified (modules.map Ident.text) name) name) wrapper =
      ".".intercalate (modules.map Ident.text ++ [wrapper, "rs"]) := by
  induction modules with
  | nil =>
    rw [List.map_nil, namespaceOf?_qualified_nil, List.nil_append, String.intercalate_cons_cons,
      String.intercalate_singleton, String.append_assoc]
    rfl
  | cons first rest ih =>
    obtain ⟨hfirst, hrest⟩ := List.forall_mem_cons.mp hmodules
    rw [List.map_cons, unitName_qualified_cons hfirst.colon_notMem, ih hrest, List.cons_append,
      String.intercalate_cons_of_ne_nil (by simp)]

/-- Two units have the same name exactly if their enumerations are in the same modules and their
wrappers have the same name. -/
theorem unitName_qualified_eq_iff {modules others : List Ident} {wrapper other : Ident}
    (hmodules : ∀ word ∈ modules, word.IsIdentifier) (hothers : ∀ word ∈ others, word.IsIdentifier)
    (hwrapper : wrapper.IsIdentifier) (hother : other.IsIdentifier)
    (name otherName : String) :
    unitName (namespaceOf? (qualified (modules.map Ident.text) name) name) wrapper.text =
        unitName (namespaceOf? (qualified (others.map Ident.text) otherName) otherName) other.text ↔
      modules.map Ident.text = others.map Ident.text ∧ wrapper.text = other.text := by
  -- No part of a name holds a dot, so the dots between them tell the parts apart.
  have hparts {words : List Ident} {last : Ident} (hwords : ∀ word ∈ words, word.IsIdentifier)
      (hlast : last.IsIdentifier) : ∀ part ∈ words.map Ident.text ++ [last.text, "rs"],
        '.' ∉ part.toList := by
    intro part hpart
    rcases List.mem_append.mp hpart with hpart | hpart
    · obtain ⟨word, hword, rfl⟩ := List.mem_map.mp hpart
      exact (hwords word hword).dot_notMem
    · obtain rfl | rfl : part = last.text ∨ part = "rs" := by simpa using hpart
      · exact hlast.dot_notMem
      · decide
  rw [unitName_qualified hmodules, unitName_qualified hothers]
  constructor
  · intro hnames
    have hall := UnitName.intercalate_inj (hparts hmodules hwrapper) (hparts hothers hother)
      (by simp) (by simp) hnames
    obtain ⟨hpath, hends⟩ := List.append_inj' hall rfl
    exact ⟨hpath, (List.cons.inj hends).1⟩
  · rintro ⟨hpath, hlast⟩
    rw [hpath, hlast]

/-- A module with a raw name is not the module without the mark, and the enumeration does not tell
them apart. -/
theorem unitName_qualified_raw :
    unitName (namespaceOf? (qualified ["r#a", "b"] "E") "E") "W" =
        unitName (namespaceOf? (qualified ["r#a", "b"] "F") "F") "W" ∧
      unitName (namespaceOf? (qualified ["r#a", "b"] "E") "E") "W" ≠
        unitName (namespaceOf? (qualified ["a", "b"] "E") "E") "W" := by
  let raw : List Ident := [⟨"r#a", .nowhere⟩, ⟨"b", .nowhere⟩]
  let plain : List Ident := [⟨"a", .nowhere⟩, ⟨"b", .nowhere⟩]
  let wrapper : Ident := ⟨"W", .nowhere⟩
  have hsame := @unitName_qualified_eq_iff raw raw wrapper wrapper
    (by decide) (by decide) (by decide) (by decide) "E" "F"
  have hraw := @unitName_qualified_eq_iff raw plain wrapper wrapper
    (by decide) (by decide) (by decide) (by decide) "E" "E"
  exact ⟨hsame.mpr ⟨rfl, rfl⟩, fun hnames => absurd (hraw.mp hnames).1 (by decide)⟩

end Item

end ValuedEnum
