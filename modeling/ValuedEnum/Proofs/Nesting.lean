import ValuedEnum.Generation
import ValuedEnum.Proofs.Resolution
import ValuedEnum.Proofs.UnitNames

/-!
# Files side by side and in modules

What becomes of an enumeration does not depend on what else is in its file. The outcomes of two
lists of items are those of the first one and then those of the second one, and a module around
some items only adds its name to the names of units and of declarations.
-/

namespace ValuedEnum

/-- The outcomes of a file. -/
def Host.outcomes (host : Host) (file : SourceFile) : Except Panic (List Outcome) :=
  (host.generate file).map Generation.outcomes

/-- A host that does not panic when it is asked for the options of an enumeration. -/
def Host.Answers (host : Host) : Prop := ∀ item, ∃ answer, host.wrapperOptions item = .ok answer

/-- Reading attributes never panics. -/
theorem Host.answers_ofSchema (schema : Schema) : (ofSchema schema).Answers := fun _ => ⟨_, rfl⟩

/-- What was found, as it is in a module. -/
def Found.inside (name : String) (found : Found) : Found :=
  { found with fullName := name ++ "::" ++ found.fullName }

/-! ### Scanning -/

namespace Item

/-- Items inside of modules, the outermost one first. -/
def nested (modules : List Ident) (items : List Item) : List Item :=
  modules.foldr (fun name inner => [.module name inner]) items

/-- The enumerations of some items come before those of the items behind them. -/
theorem foundAll_append (host : Host) (modules : List String) (front back : List Item) :
    foundAll host modules (front ++ back) = do
      let found ← foundAll host modules front
      return found ++ (← foundAll host modules back) := by
  induction front with
  | nil => cases hback : foundAll host modules back <;> simp [foundAll, hback, bind, Except.bind,
      pure, Except.pure]
  | cons item rest ih =>
    cases hitem : found host modules item with
    | error panic => simp [foundAll, hitem, bind, Except.bind]
    | ok first =>
      simp only [List.cons_append, foundAll, hitem, ih]
      cases foundAll host modules rest with
      | error panic => rfl
      | ok second =>
        cases foundAll host modules back with
        | error panic => rfl
        | ok third => simp [bind, Except.bind, pure, Except.pure]

mutual

/-- Every enumeration is found with its own options, under the name that its modules give it. -/
theorem options_of_mem_found {host : Host} {modules : List String} {item : Item}
    {all : List Found} (h : found host modules item = .ok all) :
    ∀ entry ∈ all, host.wrapperOptions entry.item = .ok (some entry.options) ∧
      ∃ inner, entry.fullName = qualified (modules ++ inner) entry.item.ident.text := by
  cases item with
  | module name items =>
    intro entry hentry
    obtain ⟨hoptions, inner, hname⟩ := options_of_mem_foundAll h entry hentry
    exact ⟨hoptions, name.text :: inner, by simpa using hname⟩
  | enumeration item =>
    simp only [found] at h
    split at h
    · simp at h
    · simp only [Except.ok.injEq] at h
      simp [← h]
    · rename_i options hoptions
      simp only [Except.ok.injEq] at h
      subst h
      simpa using ⟨hoptions, [], by simp⟩
  | other =>
    simp only [found, Except.ok.injEq] at h
    simp [← h]

/-- What is found among some items has the options that the host answers with, and its full name. -/
theorem options_of_mem_foundAll {host : Host} {modules : List String} {items : List Item}
    {all : List Found} (h : foundAll host modules items = .ok all) :
    ∀ entry ∈ all, host.wrapperOptions entry.item = .ok (some entry.options) ∧
      ∃ inner, entry.fullName = qualified (modules ++ inner) entry.item.ident.text := by
  cases items with
  | nil =>
    simp only [foundAll, Except.ok.injEq] at h
    simp [← h]
  | cons item rest =>
    cases hfront : found host modules item with
    | error panic => simp [foundAll, hfront] at h
    | ok front =>
      cases hback : foundAll host modules rest with
      | error panic => simp [foundAll, hfront, hback] at h
      | ok back =>
        simp only [foundAll, hfront, hback, Except.ok.injEq] at h
        subst h
        intro entry hentry
        rcases List.mem_append.mp hentry with hentry | hentry
        · exact options_of_mem_found hfront entry hentry
        · exact options_of_mem_foundAll hback entry hentry

end

mutual

/-- A module around an item is the first one in the names of what is found. -/
theorem found_cons (host : Host) (first : String) (modules : List String) (item : Item) :
    found host (first :: modules) item =
      (found host modules item).map (List.map (Found.inside first)) := by
  cases item with
  | module name items =>
    simp only [found]
    exact foundAll_cons host first (modules ++ [name.text]) items
  | enumeration item =>
    simp only [found]
    split
    · rfl
    · rfl
    · simp [Except.map, Found.inside, qualified_cons]
  | other => rfl

/-- One more module around some items adds its name to what is found in them. -/
theorem foundAll_cons (host : Host) (first : String) (modules : List String) (items : List Item) :
    foundAll host (first :: modules) items =
      (foundAll host modules items).map (List.map (Found.inside first)) := by
  cases items with
  | nil => rfl
  | cons item rest =>
    simp only [foundAll]
    rw [found_cons host first modules item, foundAll_cons host first modules rest]
    cases found host modules item with
    | error panic => rfl
    | ok front =>
      cases foundAll host modules rest with
      | error panic => rfl
      | ok back => simp [Except.map]

end

mutual

/-- A host that answers lets a scan come to its end. -/
theorem exists_found {host : Host} (hhost : host.Answers) (modules : List String) (item : Item) :
    ∃ all, found host modules item = .ok all := by
  cases item with
  | module name items => exact exists_foundAll hhost (modules ++ [name.text]) items
  | enumeration item =>
    obtain ⟨answer, hanswer⟩ := hhost item
    cases answer with
    | none => exact ⟨[], by simp only [found, hanswer]⟩
    | some options =>
      exact ⟨[⟨qualified modules item.ident.text, item, options⟩], by simp only [found, hanswer]⟩
  | other => exact ⟨[], rfl⟩

/-- A host that always answers finds something in every list of items. -/
theorem exists_foundAll {host : Host} (hhost : host.Answers) (modules : List String)
    (items : List Item) : ∃ all, foundAll host modules items = .ok all := by
  cases items with
  | nil => exact ⟨[], rfl⟩
  | cons item rest =>
    obtain ⟨front, hfront⟩ := exists_found hhost modules item
    obtain ⟨back, hback⟩ := exists_foundAll hhost modules rest
    exact ⟨front ++ back, by simp only [foundAll, hfront, hback]⟩

end

end Item

/-! ### Outcomes -/

/-- What is declared does not depend on the modules around an enumeration. -/
theorem Declaration.resolve_fullName (host : Host) (item : EnumItem) (fullName other : String)
    (options : Except Problem WrapperOptions) :
    (resolve host item other options).2 =
      (resolve host item fullName options).2.map ({ · with fullName := other }) := by
  unfold resolve
  cases options with
  | error problem => rfl
  | ok options =>
    by_cases hempty : item.variants.isEmpty = true
    · simp only [hempty, if_true]
      rfl
    · simp only [hempty]
      cases representation item.attributes with
      | error problem => rfl
      | ok repr =>
        cases (Resolution.ofVariants host item.variants 0).fault <;>
          simp [Except.map, ofResolution]

namespace Outcome

/-- An outcome as it is in a module. -/
def inside (name : String) : Outcome → Outcome
  | .ok unit => .ok { unit with name := name ++ "." ++ unit.name }
  | .error diagnostic =>
    .error { diagnostic with declaration := name ++ "::" ++ diagnostic.declaration }

/-- An outcome as it is in some modules, the outermost one first. -/
def within (modules : List Ident) (outcome : Outcome) : Outcome :=
  modules.foldr (fun name inner => inside name.text inner) outcome

end Outcome

/-- A module adds its name to the outcome of an enumeration, and changes nothing else of it. -/
theorem Found.outcome_inside (host : Host) {name : String} (hname : ':' ∉ name.toList)
    {entry : Found} {modules : List String}
    (hentry : entry.fullName = Item.qualified modules entry.item.ident.text) :
    (entry.inside name).outcome host = Outcome.inside name (entry.outcome host) := by
  have hresolve := Declaration.resolve_fullName host entry.item entry.fullName
    (name ++ "::" ++ entry.fullName) entry.options
  unfold outcome resolve inside
  rw [hresolve]
  cases hresolved : (Declaration.resolve host entry.item entry.fullName entry.options).2 with
  | error fault => rfl
  | ok declaration =>
    obtain ⟨wrapper, repr, members, _, _, _, _, rfl⟩ := Declaration.resolve_eq_ok hresolved
    have hunit := Item.unitName_qualified_cons hname modules entry.item.ident.text wrapper.name.text
    simp only [Except.map, Outcome.inside, unit, Declaration.unitName, Declaration.space,
      Declaration.ofResolution, hentry, ← Item.qualified_cons, hunit]
    rfl

namespace Host

/-- The outcomes of a file are those of the enumerations that are found in it. -/
theorem outcomes_eq (host : Host) (file : SourceFile) :
    host.outcomes file = (host.found file).map (List.map (Found.outcome host)) := by
  unfold outcomes generate
  cases host.found file <;> rfl

/-- A host that answers lets a file be generated. -/
theorem Answers.exists_generate {host : Host} (hhost : host.Answers) (file : SourceFile) :
    ∃ generation, host.generate file = .ok generation := by
  obtain ⟨all, hfound⟩ := Item.exists_foundAll hhost [] file
  have hfound : host.found file = .ok all := hfound
  rw [generate, hfound]
  exact ⟨_, rfl⟩

/-- The outcomes of items side by side. -/
theorem outcomes_append (host : Host) (front back : List Item) :
    host.outcomes (front ++ back) = do
      let outcomes ← host.outcomes front
      return outcomes ++ (← host.outcomes back) := by
  simp only [outcomes_eq, Host.found, Item.foundAll_append]
  cases Item.foundAll host [] front with
  | error panic => rfl
  | ok first =>
    cases Item.foundAll host [] back with
    | error panic => rfl
    | ok second => simp [bind, Except.bind, pure, Except.pure, Except.map]

/-- The outcomes of a module. -/
theorem outcomes_module (host : Host) {name : Ident} (hname : name.IsIdentifier)
    (items : List Item) :
    host.outcomes [.module name items] =
      (host.outcomes items).map (List.map (Outcome.inside name.text)) := by
  have hfound : host.found [.module name items] =
      (host.found items).map (List.map (Found.inside name.text)) := by
    have hmodule := Item.foundAll_cons host name.text [] items
    simp only [Host.found, Item.foundAll, Item.found, List.nil_append, hmodule]
    cases Item.foundAll host [] items <;> simp [Except.map]
  rw [outcomes_eq, outcomes_eq, hfound]
  cases hitems : host.found items with
  | error panic => rfl
  | ok all =>
    simp only [Except.map, List.map_map, Except.ok.injEq]
    refine List.map_congr_left fun entry hentry => ?_
    obtain ⟨_, inner, hfullName⟩ := Item.options_of_mem_foundAll hitems entry hentry
    exact entry.outcome_inside host hname.colon_notMem hfullName

/-- The outcomes of some modules, one inside of the other. -/
theorem outcomes_nested (host : Host) {modules : List Ident}
    (hmodules : ∀ name ∈ modules, name.IsIdentifier) (items : List Item) :
    host.outcomes (Item.nested modules items) =
      (host.outcomes items).map (List.map (Outcome.within modules)) := by
  induction modules with
  | nil =>
    have hwithin : Outcome.within [] = id := rfl
    change host.outcomes items = _
    cases host.outcomes items <;> simp [Except.map, hwithin]
  | cons name rest ih =>
    obtain ⟨hname, hrest⟩ := List.forall_mem_cons.mp hmodules
    have hinner := ih hrest
    change host.outcomes [.module name (Item.nested rest items)] = _
    rw [outcomes_module host hname, hinner]
    cases host.outcomes items with
    | error panic => rfl
    | ok all => simp [Except.map, Outcome.within, Function.comp_def]

/-- Generation is compositional, whatever fails or panics. Items side by side have the outcomes of
the first ones and then those of the second ones; items in modules have their own outcomes, with
the names of the modules in front of the names of units and of declarations. -/
theorem outcomes_of_parts {host : Host} (hhost : host.Answers) (first second : List Item)
    {modules : List Ident} (hmodules : ∀ name ∈ modules, name.IsIdentifier) :
    ∃ front back, host.generate first = .ok front ∧ host.generate second = .ok back ∧
      (∃ both, host.generate (first ++ second) = .ok both ∧
        both.outcomes = front.outcomes ++ back.outcomes) ∧
      ∃ inner, host.generate (Item.nested modules first) = .ok inner ∧
        inner.outcomes = front.outcomes.map (Outcome.within modules) := by
  obtain ⟨front, hfront⟩ := hhost.exists_generate first
  obtain ⟨back, hback⟩ := hhost.exists_generate second
  obtain ⟨both, hboth⟩ := hhost.exists_generate (first ++ second)
  obtain ⟨inner, hinner⟩ := hhost.exists_generate (Item.nested modules first)
  -- A host that answers finds something everywhere, so both equations of outcomes are about
  -- results.
  refine ⟨front, back, hfront, hback, ⟨both, hboth, ?_⟩, inner, hinner, ?_⟩
  · simpa [outcomes, hboth, hfront, hback, bind, Except.bind, pure, Except.pure, Except.map] using
      host.outcomes_append first second
  · simpa [outcomes, hinner, hfront, Except.map] using host.outcomes_nested hmodules first

/-- An enumeration with one value, and one without variants. -/
def pairItems : List Item :=
  [.enumeration (.ofVariants "Level"
      [.ofTokens "enum_with_values" (TokenStream.word "Number")] [.ofTexts "Low" (some "16") none]),
    .enumeration (.ofVariants "Nothing"
      [.ofTokens "enum_with_values" (TokenStream.word "Never")] [])]

/-- Inside of two modules, the unit and the declaration that has none are named after both. -/
theorem outcomes_of_pairItems :
    (ofSchema .standard).Answers ∧
      (∀ name ∈ [Ident.ofText "a", .ofText "r#mod"], name.IsIdentifier) ∧
      ∃ inner, (ofSchema .standard).generate
          (Item.nested [.ofText "a", .ofText "r#mod"] pairItems) = .ok inner ∧
        inner.units.map SourceUnit.name = ["a.r#mod.Number.rs"] ∧
        inner.diagnostics.map Diagnostic.declaration = ["a::r#mod::Nothing"] := by
  have hhost := answers_ofSchema .standard
  have hmodules : ∀ name ∈ [Ident.ofText "a", .ofText "r#mod"], name.IsIdentifier := by
    unfold Ident.IsIdentifier
    decide
  obtain ⟨front, _, hfront, _, _, inner, hinner, houtcomes⟩ :=
    outcomes_of_parts hhost pairItems [] hmodules
  refine ⟨hhost, hmodules, inner, hinner, ?_, ?_⟩
  · rw [Generation.units, houtcomes]
    cases hfront
    rfl
  · rw [Generation.diagnostics, houtcomes]
    cases hfront
    rfl

end Host

end ValuedEnum
