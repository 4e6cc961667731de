import ValuedEnum.Build
import ValuedEnum.Proofs.Spelling.Units

/-!
# What a build changes

A build writes its units one after the other, and stops at the first one that can not be written.
This file relates the outcomes that a build went through to the files that it leaves behind: the
units among them have been written, in their order, and nothing else has changed. A unit is kept
unless a later one has its name.
-/

namespace ValuedEnum

open FileSystem

namespace Build

/-- The path of a unit in a directory. -/
def unitPath (out : String) (unit : SourceUnit) : String := join out unit.name

/-- The units among some outcomes, in their order. -/
def unitsOf (outcomes : List Outcome) : List SourceUnit := outcomes.filterMap Except.toOption

/-- An enumeration without a unit adds none. -/
@[simp] theorem unitsOf_error (diagnostic : Diagnostic) (rest : List Outcome) :
    unitsOf (.error diagnostic :: rest) = unitsOf rest := rfl

/-- An enumeration with a unit adds it in front. -/
@[simp] theorem unitsOf_ok (unit : SourceUnit) (rest : List Outcome) :
    unitsOf (.ok unit :: rest) = unit :: unitsOf rest := rfl

/-- What is logged of an outcome when a build has gone through it. -/
def event (out : String) : Outcome → Event
  | .ok unit => .wroteUnit (unitPath out unit)
  | .error diagnostic => .skippedDeclaration diagnostic.declaration

/-- Units that are written into a directory one after the other. -/
inductive Writes (out : String) : List SourceUnit → FileSystem → FileSystem → Prop
  | nil (files : FileSystem) : Writes out [] files files
  | cons {unit : SourceUnit} {rest : List SourceUnit} {files next last : FileSystem}
      (first : files.writeText (unitPath out unit) unit.text = .ok next)
      (others : Writes out rest next last) : Writes out (unit :: rest) files last

/-- The places of some units in a directory. -/
def IsPlace (out : String) (units : List SourceUnit) (files : FileSystem) (place : Place) : Prop :=
  ∃ directory, files.follow [] (parts out) = .ok directory ∧
    ∃ unit ∈ units, place = directory ++ [unit.name]

namespace Writes

variable {out : String} {units : List SourceUnit} {files last : FileSystem}

/-- Units with plain names change the places of these names in the directory, and nothing else. -/
theorem frame (h : Writes out units files last) (hnames : ∀ unit ∈ units, IsName unit.name) :
    Frame (IsPlace out units files) files last := by
  induction h with
  | nil files => exact .refl _ files
  | cons first others ih =>
    rename_i unit rest files next last
    obtain ⟨hname, hrest⟩ := List.forall_mem_cons.mp hnames
    obtain ⟨place, hplace, hwrite, _⟩ := frame_of_write first
    obtain ⟨directory, hdirectory, rfl⟩ := locate_join hname hplace
    have hfirst : Frame (IsPlace out (unit :: rest) files) files next := by
      refine hwrite.mono ?_
      rintro _ rfl
      exact ⟨directory, hdirectory, unit, List.mem_cons_self, rfl⟩
    have hothers : Frame (IsPlace out (unit :: rest) files) next last := by
      refine (ih hrest).mono ?_
      rintro _ ⟨inside, hinside, other, hother, rfl⟩
      -- The directory is the same one after the first write.
      have hsame := hwrite.follow [] (parts out)
      rw [hinside, hdirectory] at hsame
      obtain rfl : inside = directory := by simpa [Except.toOption] using hsame
      exact ⟨inside, hdirectory, other, List.mem_cons_of_mem _ hother, rfl⟩
    exact hfirst.trans hothers

/-- The last unit of a name is what is stored under it. -/
theorem stored (h : Writes out units files last) (hnames : ∀ unit ∈ units, IsName unit.name)
    {front back : List SourceUnit} {unit : SourceUnit} (hunits : units = front ++ unit :: back)
    (hback : ∀ later ∈ back, later.name ≠ unit.name) :
    last.readText (unitPath out unit) = .ok unit.text := by
  induction h generalizing front with
  | nil files => simp at hunits
  | cons first others ih =>
    rename_i current rest files next last
    obtain ⟨hname, hrest⟩ := List.forall_mem_cons.mp hnames
    cases front with
    | cons head front =>
      obtain ⟨_, hrest'⟩ : current = head ∧ rest = front ++ unit :: back := by simpa using hunits
      exact ih hrest hrest'
    | nil =>
      obtain ⟨rfl, rfl⟩ : current = unit ∧ rest = back := by simpa using hunits
      obtain ⟨place, hplace, hwrite, _⟩ := frame_of_write first
      obtain ⟨directory, hdirectory, rfl⟩ := locate_join hname hplace
      -- No later unit has this place, since none has this name.
      have huntouched : ∀ place, next.locate (unitPath out current) = .ok place →
          ¬IsPlace out rest next place := by
        rintro place hlocate ⟨inside, _, other, hother, rfl⟩
        rw [hwrite.locate_eq_ok hplace] at hlocate
        have hends : directory ++ [current.name] = inside ++ [other.name] := by simpa using hlocate
        have hlast := List.append_inj_right' hends rfl
        exact hback other hother (by simpa using hlast.symm)
      have hkept := (others.frame hrest).readText huntouched
      rw [readText_of_writeText first] at hkept
      exact toOption_eq_some_iff.mp hkept

end Writes

/-- What a build comes to that went through the outcomes `done` and left `rest`. -/
structure Course (out : String) (files : FileSystem) (done rest : List Outcome) (build : Build) :
    Prop where
  /-- The units that the build went through have been written in their order. -/
  writes : Writes out (unitsOf done) files build.files
  events : build.events = done.map (event out)
  /-- All outcomes are behind the build, or the next one is a unit that can not be written. -/
  result : (rest = [] ∧ build.result = .ok ((unitsOf done).map (unitPath out))) ∨
    ∃ unit later error, rest = .ok unit :: later ∧
      build.files.writeText (unitPath out unit) unit.text = .error error ∧
      build.result = .error (.access (unitPath out unit) error)

/-- One more outcome in front, with what is written for it. -/
theorem Course.after {out : String} {files next : FileSystem} {outcome : Outcome}
    {done rest : List Outcome} {build : Build} (h : Course out next done rest build)
    (hwrites : Writes out (unitsOf (outcome :: done)) files build.files) :
    Course out files (outcome :: done) rest
      (build.after (event out outcome) (outcome.toOption.map (unitPath out))) := by
  refine ⟨hwrites, ?_, ?_⟩
  · rw [Build.after, h.events, List.map_cons]
  · rcases h.result with ⟨hrest, hresult⟩ | ⟨unit, later, error, hrest, hwrite, hresult⟩
    · refine .inl ⟨hrest, ?_⟩
      rw [Build.after, hresult]
      cases outcome <;> simp [Except.map, Except.toOption]
    · refine .inr ⟨unit, later, error, hrest, hwrite, ?_⟩
      rw [Build.after, hresult, Except.map]

/-- A unit that can be written is written before the outcomes behind it. -/
theorem writeAll_of_write {out : String} {files next : FileSystem} {unit : SourceUnit}
    (h : files.writeText (unitPath out unit) unit.text = .ok next) (rest : List Outcome) :
    writeAll out files (.ok unit :: rest) =
      (writeAll out next rest).after (.wroteUnit (unitPath out unit))
        (some (unitPath out unit)) := by
  rw [writeAll, ← unitPath, h]

/-- A build goes through its outcomes until a unit can not be written. -/
theorem exists_course (out : String) (files : FileSystem) (outcomes : List Outcome) :
    ∃ done rest, outcomes = done ++ rest ∧
      Course out files done rest (writeAll out files outcomes) := by
  induction outcomes generalizing files with
  | nil => exact ⟨[], [], rfl, .nil files, rfl, .inl ⟨rfl, rfl⟩⟩
  | cons outcome others ih =>
    cases outcome with
    | error diagnostic =>
      obtain ⟨done, rest, rfl, hcourse⟩ := ih files
      exact ⟨.error diagnostic :: done, rest, rfl, hcourse.after hcourse.writes⟩
    | ok unit =>
      cases hwrite : files.writeText (unitPath out unit) unit.text with
      | error problem =>
        have hstop : writeAll out files (.ok unit :: others) =
            ⟨files, [], .error (.access (unitPath out unit) problem)⟩ := by
          rw [writeAll, ← unitPath, hwrite]
        rw [hstop]
        refine ⟨[], .ok unit :: others, rfl, .nil files, rfl, .inr ?_⟩
        exact ⟨unit, others, problem, rfl, hwrite, rfl⟩
      | ok next =>
        obtain ⟨done, rest, rfl, hcourse⟩ := ih next
        rw [writeAll_of_write hwrite]
        exact ⟨.ok unit :: done, rest, rfl, hcourse.after (.cons hwrite hcourse.writes)⟩

/-! ### Runs -/

/-- What some units leave behind in a directory. -/
structure Effects (out : String) (units : List SourceUnit) (before after : FileSystem) : Prop where
  /-- Each unit without a later one of its name is in the file of this name. -/
  stored : ∀ front unit back, units = front ++ unit :: back →
    (∀ later ∈ back, later.name ≠ unit.name) →
    after.readText (unitPath out unit) = .ok unit.text
  /-- What has changed is an entry of the directory with the name of a unit. -/
  places : ∀ place, after.node? place ≠ before.node? place → IsPlace out units before place
  /-- A path that leads to no such place has the content that it had, or still none. -/
  contents : ∀ path, (after.read path).toOption ≠ (before.read path).toOption →
    ∃ place, before.locate path = .ok place ∧ IsPlace out units before place

/-- Units that are written leave behind their texts and change nothing else. -/
theorem Writes.effects {out : String} {units : List SourceUnit} {files last : FileSystem}
    (h : Writes out units files last) (hnames : ∀ unit ∈ units, IsName unit.name) :
    Effects out units files last where
  stored front unit back hunits hback := h.stored hnames hunits hback
  places place hplace := Classical.byContradiction fun hother =>
    hplace ((h.frame hnames).kept place hother)
  contents path hpath := Classical.byContradiction fun hother => by
    apply hpath
    refine (h.frame hnames).read fun place hplace hunit => ?_
    exact hother ⟨place, hplace, hunit⟩

variable {host : Host}

/-- Behind a file that is read and generated from, a build writes. -/
theorem run_eq_writeAll {files : FileSystem} {input text : String} {file : SourceFile}
    {generation : Generation} (hread : files.readText input = .ok text)
    (hfile : SourceFile.ofText text = .ok file) (hgeneration : host.generate file = .ok generation)
    (out : String) : run host files input out = writeAll out files generation.outcomes := by
  simp [run, hread, hfile, hgeneration]

/-- A build with outcomes goes through them, and changes what the units among them ask for. -/
theorem run_course (hhost : host.NamesWrappers) {files : FileSystem} {input out text : String}
    {file : SourceFile} {generation : Generation} (hread : files.readText input = .ok text)
    (hfile : SourceFile.ofText text = .ok file)
    (hgeneration : host.generate file = .ok generation) :
    ∃ done rest, generation.outcomes = done ++ rest ∧
      Course out files done rest (run host files input out) ∧
      Effects out (unitsOf done) files (run host files input out).files ∧
      ∀ unit ∈ generation.units, IsName unit.name := by
  have hnames : ∀ unit ∈ generation.units, IsName unit.name := fun unit hunit =>
    hhost.isName_of_mem_units (SourceFile.spelledAll_ofText hfile) hgeneration hunit
  obtain ⟨done, rest, hsplit, hcourse⟩ := exists_course out files generation.outcomes
  have hdone : ∀ unit ∈ unitsOf done, IsName unit.name := by
    intro unit hunit
    apply hnames
    rw [Generation.units, hsplit, List.filterMap_append]
    exact List.mem_append_left _ hunit
  rw [run_eq_writeAll hread hfile hgeneration out]
  exact ⟨done, rest, hsplit, hcourse, hcourse.writes.effects hdone, hnames⟩

/-- What a build changes. If its input can not be read or is no source, or if the host panics while
the source is searched, nothing has changed. Otherwise the build goes through the outcomes of the
source in their order: it passes over those without a unit, and stops at the first unit that can not
be written. The units that it went through, and no other ones, have been written, each into the
directory itself. -/
theorem run_effects (hhost : host.NamesWrappers) (files : FileSystem) (input out : String) :
    (∀ error, files.readText input = .error error →
      (run host files input out).files = files ∧
        (run host files input out).result = .error (.access input error)) ∧
    (∀ text problem, files.readText input = .ok text → SourceFile.ofText text = .error problem →
      (run host files input out).files = files ∧
        (run host files input out).result = .error (.source input problem)) ∧
    (∀ text file panic, files.readText input = .ok text → SourceFile.ofText text = .ok file →
      host.generate file = .error panic →
      (run host files input out).files = files ∧
        (run host files input out).result = .error (.panicked panic)) ∧
    ∀ text file generation, files.readText input = .ok text → SourceFile.ofText text = .ok file →
      host.generate file = .ok generation →
      ∃ done rest, generation.outcomes = done ++ rest ∧
        Course out files done rest (run host files input out) ∧
        Effects out (unitsOf done) files (run host files input out).files ∧
        ∀ unit ∈ generation.units, IsName unit.name := by
  refine ⟨?_, ?_, ?_, ?_⟩
  · intro error hread
    simp [run, hread]
  · intro text problem hread hfile
    simp [run, hread, hfile]
  · intro text file panic hread hfile hpanic
    simp [run, hread, hfile, hpanic]
  · intro text file generation hread hfile hgeneration
    exact run_course hhost hread hfile hgeneration

/-! ### Two units of one name -/

/-- Two modules of one name, of which a compiler would leave out one. -/
def namesakeText : String :=
  "#[cfg(a)] mod m \x7b #[enum_with_values(W)] enum A \x7b #[value(1)] B \x7d \x7d" ++
  "#[cfg(b)] mod m \x7b #[enum_with_values(W)] enum C \x7b #[value(2)] D \x7d \x7d"

/-- A file with this text, and a directory to write to. -/
def namesakeFiles : FileSystem :=
  ⟨[(["in.rs"], .file namesakeText.toUTF8), (["out"], .directory)]⟩

/-- The text of the example is read from its file. -/
theorem readText_namesakeFiles : namesakeFiles.readText "in.rs" = .ok namesakeText :=
  readText_of_node? rfl rfl

/-- The name of a unit and the start of its text. -/
def front? (outcome : Outcome) : Option (String × List Char) :=
  outcome.toOption.map fun unit => (unit.name, (TokenTree.charsAll unit.tokens).take 6)

set_option maxRecDepth 10000 in
/-- The example has two units of one name, and their texts differ. -/
theorem fronts_of_namesakes :
    ∃ file ∈ (SourceFile.ofText namesakeText).toOption,
      ∃ generation ∈ ((Host.ofSchema .standard).generate file).toOption,
        generation.outcomes.map front? =
          [some ("m.W.rs", "enum A".toList), some ("m.W.rs", "enum C".toList)] := by
  decide +kernel

/-- An outcome that starts so is a unit with this name. -/
theorem exists_of_front? {outcome : Outcome} {name : String} {start : List Char}
    (h : front? outcome = some (name, start)) :
    ∃ unit, outcome = .ok unit ∧ unit.name = name ∧ unit.text.toList.take 6 = start := by
  cases outcome with
  | error diagnostic => simp [front?, Except.toOption] at h
  | ok unit =>
    have htext : unit.text.toList = TokenTree.charsAll unit.tokens := String.toList_ofList
    exact ⟨unit, rfl, by simpa [front?, Except.toOption, htext] using h⟩

/-- Both enumerations have units of the same name, and different texts. -/
theorem exists_namesakes : ∃ (file : SourceFile) (generation : Generation)
    (first second : SourceUnit),
    SourceFile.ofText namesakeText = .ok file ∧
      (Host.ofSchema .standard).generate file = .ok generation ∧
      generation.outcomes = [.ok first, .ok second] ∧
      first.name = "m.W.rs" ∧ second.name = "m.W.rs" ∧ first.text ≠ second.text := by
  obtain ⟨file, hfile, generation, hgeneration, hfronts⟩ := fronts_of_namesakes
  simp only [List.map_eq_cons_iff, List.map_eq_nil_iff] at hfronts
  obtain ⟨one, _, houtcomes, hone, other, _, rfl, hother, rfl⟩ := hfronts
  obtain ⟨first, rfl, hfirst, hA⟩ := exists_of_front? hone
  obtain ⟨second, rfl, hsecond, hC⟩ := exists_of_front? hother
  refine ⟨file, generation, first, second, toOption_eq_some_iff.mp hfile,
    toOption_eq_some_iff.mp hgeneration, houtcomes, hfirst, hsecond, ?_⟩
  intro hsame
  rw [hsame, hC] at hA
  revert hA
  decide

/-- The build of the example goes through both units. -/
theorem run_effects_of_namesakes : ∃ (generation : Generation) (done rest : List Outcome),
    generation.outcomes = done ++ rest ∧
      Course "out" namesakeFiles done rest
        (run (Host.ofSchema .standard) namesakeFiles "in.rs" "out") ∧
      Effects "out" (unitsOf done) namesakeFiles
        (run (Host.ofSchema .standard) namesakeFiles "in.rs" "out").files ∧
      generation.units.map SourceUnit.name = ["m.W.rs", "m.W.rs"] ∧
      ∀ unit ∈ generation.units, IsName unit.name := by
  obtain ⟨file, generation, first, second, hfile, hgeneration, houtcomes, hfirst, hsecond, _⟩ :=
    exists_namesakes
  obtain ⟨_, _, _, hrun⟩ :=
    run_effects (Host.namesWrappers_ofSchema .standard) namesakeFiles "in.rs" "out"
  obtain ⟨done, rest, hsplit, hcourse, heffects, hnames⟩ :=
    hrun namesakeText file generation readText_namesakeFiles hfile hgeneration
  refine ⟨generation, done, rest, hsplit, hcourse, heffects, ?_, hnames⟩
  simp [Generation.units, houtcomes, Except.toOption, hfirst, hsecond]

/-- One of several units with a property is the last one. -/
theorem exists_last {p : SourceUnit → Prop} {units : List SourceUnit}
    (h : ∃ unit ∈ units, p unit) :
    ∃ front unit back, units = front ++ unit :: back ∧ p unit ∧ ∀ later ∈ back, ¬p later := by
  induction units with
  | nil => simp at h
  | cons first rest ih =>
    by_cases hrest : ∃ unit ∈ rest, p unit
    · obtain ⟨front, unit, back, rfl, hunit, hback⟩ := ih hrest
      exact ⟨first :: front, unit, back, rfl, hunit, hback⟩
    · obtain ⟨unit, hunit, hp⟩ := h
      have hlast : ∀ later ∈ rest, ¬p later := fun later hlater hp => hrest ⟨later, hlater, hp⟩
      rcases List.mem_cons.mp hunit with rfl | hunit
      · exact ⟨[], unit, rest, rfl, hp, hlast⟩
      · exact absurd hp (hlast unit hunit)

/-- What a build that succeeds leaves of its units. The paths of all units are returned, in the
order of the source. A unit is kept if no later one has its name. Otherwise its file holds a later
unit of this name, and the unit is lost. -/
theorem run_keeps_last (hhost : host.NamesWrappers) {files : FileSystem} {input out : String}
    {written : List String} (h : (run host files input out).result = .ok written) :
    ∃ text file generation, files.readText input = .ok text ∧ SourceFile.ofText text = .ok file ∧
      host.generate file = .ok generation ∧ written = generation.units.map (unitPath out) ∧
      ∀ front unit back, generation.units = front ++ unit :: back →
        ((∀ later ∈ back, later.name ≠ unit.name) →
          (run host files input out).files.readText (unitPath out unit) = .ok unit.text) ∧
        ((∃ later ∈ back, later.name = unit.name) → ∃ later ∈ back, later.name = unit.name ∧
          (run host files input out).files.readText (unitPath out unit) = .ok later.text) := by
  -- A run with a result has read its input, and nothing stopped it before the first write.
  obtain ⟨text, file, generation, hread, hfile, hgeneration⟩ :
      ∃ text file generation, files.readText input = .ok text ∧
        SourceFile.ofText text = .ok file ∧ host.generate file = .ok generation := by
    unfold run at h
    split at h
    · simp at h
    · split at h
      · simp at h
      · split at h
        · simp at h
        · exact ⟨_, _, _, ‹_›, ‹_›, ‹_›⟩
  obtain ⟨done, rest, hsplit, hcourse, heffects, _⟩ := run_course hhost hread hfile hgeneration
  rcases hcourse.result with ⟨rfl, hresult⟩ | ⟨unit, later, error, rfl, _, hresult⟩
  · have hunits : unitsOf done = generation.units := by
      rw [Generation.units, hsplit, List.append_nil, unitsOf]
    rw [hunits] at heffects hresult
    obtain rfl : generation.units.map (unitPath out) = written := by
      rw [hresult] at h
      simpa using h
    refine ⟨text, file, generation, hread, hfile, hgeneration, rfl, ?_⟩
    intro front unit back hfront
    refine ⟨heffects.stored front unit back hfront, fun hlater => ?_⟩
    -- The last unit of the name is the one whose text stays.
    obtain ⟨between, later, tail, rfl, hname, htail⟩ := exists_last hlater
    have hmem : later ∈ between ++ later :: tail := by simp
    refine ⟨later, hmem, hname, ?_⟩
    have hlast : generation.units = (front ++ unit :: between) ++ later :: tail := by
      simpa using hfront
    have hnone : ∀ other ∈ tail, other.name ≠ later.name := by
      intro other hother
      rw [hname]
      exact htail other hother
    have hstored := heffects.stored _ later tail hlast hnone
    rwa [unitPath, hname] at hstored
  · rw [hresult] at h
    simp at h

/-- Both units are written, one after the other. -/
theorem result_of_namesakes :
    (run (Host.ofSchema .standard) namesakeFiles "in.rs" "out").result =
      .ok ["out/m.W.rs", "out/m.W.rs"] := by
  obtain ⟨file, generation, first, second, hfile, hgeneration, houtcomes, hfirst, hsecond, _⟩ :=
    exists_namesakes
  have hplace : namesakeFiles.locate "out/m.W.rs" = .ok ["out", "m.W.rs"] := rfl
  have hfree : namesakeFiles.node? ["out", "m.W.rs"] = none := rfl
  obtain ⟨next, hnext⟩ := exists_write hplace (by simp [hfree]) first.text.toUTF8
  obtain ⟨place, hsame, hframe, hnode⟩ := frame_of_write hnext
  obtain rfl : ["out", "m.W.rs"] = place := by simpa [hplace] using hsame
  have hplace' := hframe.locate_eq_ok hplace
  obtain ⟨last, hlast⟩ := exists_write hplace' (by simp [hnode]) second.text.toUTF8
  have hfirstPath : unitPath "out" first = "out/m.W.rs" := by
    rw [unitPath, hfirst]
    rfl
  have hsecondPath : unitPath "out" second = "out/m.W.rs" := by
    rw [unitPath, hsecond]
    rfl
  rw [← hfirstPath] at hnext
  rw [← hsecondPath] at hlast
  rw [run_eq_writeAll readText_namesakeFiles hfile hgeneration, houtcomes, writeAll_of_write hnext,
    writeAll_of_write hlast, hfirstPath, hsecondPath]
  simp [writeAll, Build.after, Except.map]

/-- The first one of two units with the same name is lost. -/
theorem run_keeps_last_of_namesakes : ∃ (generation : Generation) (first second : SourceUnit),
    generation.units = [first, second] ∧
      (run (Host.ofSchema .standard) namesakeFiles "in.rs" "out").result =
        .ok ["out/m.W.rs", "out/m.W.rs"] ∧
      first.text ≠ second.text ∧
      (run (Host.ofSchema .standard) namesakeFiles "in.rs" "out").files.readText "out/m.W.rs" =
        .ok second.text := by
  obtain ⟨file, generation, first, second, hfile, hgeneration, houtcomes, hfirst, hsecond,
    htexts⟩ := exists_namesakes
  have hunits : generation.units = [first, second] := by
    simp [Generation.units, houtcomes, Except.toOption]
  have hpath : unitPath "out" first = "out/m.W.rs" := by
    rw [unitPath, hfirst]
    rfl
  obtain ⟨text, source, run, hread, hsource, hrun, _, hkept⟩ :=
    run_keeps_last (Host.namesWrappers_ofSchema .standard) result_of_namesakes
  obtain rfl : namesakeText = text := by simpa [readText_namesakeFiles] using hread
  obtain rfl : file = source := by simpa [hfile] using hsource
  obtain rfl : generation = run := by simpa [hgeneration] using hrun
  obtain ⟨later, hlater, _, hread⟩ := (hkept [] first [second] hunits).2 (by simp [hfirst, hsecond])
  obtain rfl : later = second := by simpa using hlater
  rw [hpath] at hread
  exact ⟨generation, first, later, hunits, result_of_namesakes, htexts, hread⟩

end Build

end ValuedEnum
