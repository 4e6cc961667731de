import ValuedEnum.Proofs.Files
import ValuedEnum.Proofs.Spelling.Source

/-!
# Names of the units of a source

A unit is named after modules and a wrapper, all of which are identifiers. So no unit of a source is
named like a path: its name stands for an entry of whatever directory it is written to.
-/

namespace ValuedEnum

open FileSystem

namespace Item

/-- No slash stands between or in the words that a unit is named after. -/
theorem slash_notMem_unitName {modules : List Ident}
    (hmodules : ∀ word ∈ modules, word.IsIdentifier) (name : String) {wrapper : Ident}
    (hwrapper : wrapper.IsIdentifier) :
    '/' ∉ (unitName (namespaceOf? (qualified (modules.map Ident.text) name) name)
      wrapper.text).toList := by
  have hword {word : Ident} (h : word.IsIdentifier) : '/' ∉ word.text.toList :=
    h.notMem (by decide) (by decide)
  induction modules with
  | nil => simp [namespaceOf?_qualified_nil, unitName, hword hwrapper]
  | cons first rest ih =>
    obtain ⟨hfirst, hrest⟩ := List.forall_mem_cons.mp hmodules
    rw [List.map_cons, unitName_qualified_cons hfirst.colon_notMem]
    simpa [hword hfirst] using ih hrest

/-- A unit that is named after identifiers has a plain name. -/
theorem isName_unitName {modules : List Ident} (hmodules : ∀ word ∈ modules, word.IsIdentifier)
    (name : String) {wrapper : Ident} (hwrapper : wrapper.IsIdentifier) :
    IsName (unitName (namespaceOf? (qualified (modules.map Ident.text) name) name)
      wrapper.text) := by
  have hslash := slash_notMem_unitName hmodules name hwrapper
  have hending (space : Option String) (text : String) : 3 ≤ (unitName space text).length := by
    have hrs : ".rs".length = 3 := rfl
    cases space <;> simp only [unitName, String.length_append] <;> omega
  have hlength := hending (namespaceOf? (qualified (modules.map Ident.text) name) name) wrapper.text
  refine ⟨hslash, ?_, ?_, ?_⟩
  all_goals
    intro heq
    rw [heq] at hlength
    revert hlength
    decide

mutual

/-- The enumerations of a spelled item are spelled, and stand in modules named by identifiers. -/
theorem spelled_of_mem_declared {modules : List Ident}
    (hmodules : ∀ word ∈ modules, word.IsIdentifier) {item : Item} (hitem : item.Spelled) :
    ∀ entry ∈ item.declared (modules.map Ident.text), entry.item.Spelled ∧
      ∃ inner : List Ident, (∀ word ∈ inner, word.IsIdentifier) ∧
        entry.fullName = qualified (inner.map Ident.text) entry.item.ident.text := by
  cases item with
  | module name items =>
    rw [Spelled] at hitem
    have hinner : ∀ word ∈ modules ++ [name], word.IsIdentifier := by
      simpa [or_imp, forall_and] using ⟨hmodules, hitem.1⟩
    have hmap : modules.map Ident.text ++ [name.text] = (modules ++ [name]).map Ident.text := by
      simp
    rw [declared, hmap]
    exact spelled_of_mem_declaredAll hinner hitem.2
  | enumeration item =>
    rw [Spelled] at hitem
    rw [declared]
    simpa using ⟨hitem, modules, hmodules, rfl⟩
  | other => simp [declared]

/-- In modules that are named by identifiers, spelled items declare spelled enumerations. -/
theorem spelled_of_mem_declaredAll {modules : List Ident}
    (hmodules : ∀ word ∈ modules, word.IsIdentifier) {items : List Item}
    (hitems : SpelledAll items) :
    ∀ entry ∈ declaredAll (modules.map Ident.text) items, entry.item.Spelled ∧
      ∃ inner : List Ident, (∀ word ∈ inner, word.IsIdentifier) ∧
        entry.fullName = qualified (inner.map Ident.text) entry.item.ident.text := by
  cases items with
  | nil => simp [declaredAll]
  | cons item rest =>
    rw [SpelledAll] at hitems
    rw [declaredAll]
    intro entry hentry
    rcases List.mem_append.mp hentry with hentry | hentry
    · exact spelled_of_mem_declared hmodules hitems.1 entry hentry
    · exact spelled_of_mem_declaredAll hmodules hitems.2 entry hentry

end

end Item

/-- All that is found was asked about. -/
theorem Declared.exists_of_mem_ask {host : Host} {entries : List Declared} {all : List Found}
    (h : ask host entries = .ok all) {found : Found} (hfound : found ∈ all) :
    ∃ entry ∈ entries, entry.found? host = some found := by
  induction entries generalizing all with
  | nil =>
    obtain rfl : [] = all := by simpa [ask] using h
    simp at hfound
  | cons entry rest ih =>
    rw [ask] at h
    split at h
    · simp at h
    · split at h
      · simp at h
      · rename_i back hback
        obtain rfl : (entry.found? host).toList ++ back = all := by simpa using h
        rcases List.mem_append.mp hfound with hentry | hrest
        · exact ⟨entry, List.mem_cons_self, by simpa using hentry⟩
        · obtain ⟨other, hother, hsame⟩ := ih hback hrest
          exact ⟨other, List.mem_cons_of_mem _ hother, hsame⟩

/-- A unit holds the code of a declaration with the options that were found. -/
theorem Found.exists_of_outcome {host : Host} {found : Found} {unit : SourceUnit}
    (h : found.outcome host = .ok unit) :
    ∃ wrapper repr members, found.options = .ok wrapper ∧ unit = found.unit host.schema
      (.ofResolution found.item found.fullName wrapper repr members) := by
  unfold outcome at h
  split at h
  · rename_i declaration hdeclaration
    obtain rfl : found.unit host.schema declaration = unit := by simpa using h
    obtain ⟨wrapper, repr, members, hwrapper, _, _, _, rfl⟩ :=
      Declaration.resolve_eq_ok hdeclaration
    exact ⟨wrapper, repr, members, hwrapper, rfl⟩
  · simp at h

/-- A unit comes from what was found. -/
theorem Host.exists_found_of_mem_units {host : Host} {file : SourceFile} {generation : Generation}
    (h : host.generate file = .ok generation) {unit : SourceUnit}
    (hunit : unit ∈ generation.units) :
    ∃ entry ∈ Item.declaredAll [] file, ∃ found, entry.found? host = some found ∧
      found.outcome host = .ok unit := by
  unfold generate at h
  split at h
  · simp at h
  · rename_i all hall
    obtain rfl : _ = generation := by simpa using h
    simp only [Generation.units, List.filterMap_map, List.mem_filterMap,
      Function.comp_apply] at hunit
    obtain ⟨found, hfound, hsome⟩ := hunit
    rw [Host.found, Item.foundAll_eq_ask] at hall
    obtain ⟨entry, hentry, hanswer⟩ := Declared.exists_of_mem_ask hall hfound
    exact ⟨entry, hentry, found, hanswer, toOption_eq_some_iff.mp hsome⟩

/-- All units of a spelled file have plain names. -/
theorem Host.NamesWrappers.isName_of_mem_units {host : Host} (hhost : host.NamesWrappers)
    {file : SourceFile} (hfile : Item.SpelledAll file) {generation : Generation}
    (h : host.generate file = .ok generation) {unit : SourceUnit}
    (hunit : unit ∈ generation.units) : IsName unit.name := by
  obtain ⟨entry, hentry, found, hanswer, houtcome⟩ := exists_found_of_mem_units h hunit
  obtain ⟨wrapper, repr, members, hwrapper, rfl⟩ := Found.exists_of_outcome houtcome
  have houtside : ∀ word ∈ ([] : List Ident), word.IsIdentifier := by simp
  obtain ⟨hitem, modules, hmodules, hfull⟩ :=
    Item.spelled_of_mem_declaredAll houtside hfile entry hentry
  unfold Declared.found? at hanswer
  split at hanswer
  · rename_i options hoptions
    obtain rfl : _ = found := by simpa using hanswer
    have hwrapper : options = .ok wrapper := hwrapper
    have hidentifier : wrapper.name.IsIdentifier :=
      hhost entry.item wrapper hitem (by rw [hoptions, hwrapper])
    change IsName (unitName (namespaceOf? entry.fullName entry.item.ident.text) wrapper.name.text)
    rw [hfull]
    exact Item.isName_unitName hmodules entry.item.ident.text hidentifier
  · simp at hanswer

end ValuedEnum
