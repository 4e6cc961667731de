import ValuedEnum.Generation

/-!
# Runs that tell their events on the way

A run goes through a file step by step, and a step that is to be told appends its event to a log
when it is taken. This file describes such a run and proves that its log is the one that is kept
with a generation. So the order of the events is the order of the steps.
-/

namespace ValuedEnum

/-- A run with a log, to which it appends events. -/
abbrev Telling := StateM (List Event)

namespace Telling

variable {α β : Type}

/-- Appends an event to the log. -/
def tell (event : Event) : Telling Unit := modify (· ++ [event])

/-- Whatever the log holds before, a run returns a result and appends some events. -/
def Logs (run : Telling α) (result : α) (events : List Event) : Prop :=
  ∀ log, run.run log = (result, log ++ events)

/-- A run that does nothing appends nothing. -/
theorem logs_pure (result : α) : Logs (pure result) result [] := by
  intro log
  rw [List.append_nil]
  rfl

/-- An event that is told is appended. -/
theorem logs_tell (event : Event) : Logs (tell event) () [event] := fun _ => rfl

/-- Of two runs in a row, the second one appends behind the first one. -/
theorem Logs.bind {run : Telling α} {next : α → Telling β} {result : α} {last : β}
    {front back : List Event} (h : run.Logs result front) (hnext : (next result).Logs last back) :
    Logs (run >>= next) last (front ++ back) := by
  intro log
  have hfront : (run >>= next).run log = (next (run.run log).1).run (run.run log).2 := rfl
  rw [hfront, h log, ← List.append_assoc]
  exact hnext (log ++ front)

/-- A run that only returns something in the end appends no more. -/
theorem Logs.bind_pure {run : Telling α} {next : α → Telling β} {result : α} {last : β}
    {events : List Event} (h : run.Logs result events) (hnext : next result = pure last) :
    Logs (run >>= next) last events := by
  have hlast : (next result).Logs last [] := hnext ▸ logs_pure last
  simpa using h.bind hlast

/-- One event is told in front of the rest of a run. -/
theorem Logs.after_tell {next : Unit → Telling β} {last : β} {event : Event} {back : List Event}
    (hnext : (next ()).Logs last back) : Logs (tell event >>= next) last (event :: back) :=
  (logs_tell event).bind hnext

end Telling

open Telling

/-! ### The search -/

namespace Item

mutual

/-- Searches an item for annotated enumerations and tells each of them when it is found. -/
def tell (host : Host) (modules : List String) : Item → Telling (Except Panic (List Found))
  | .module name items => tellAll host (modules ++ [name.text]) items
  | .enumeration item =>
    match host.wrapperOptions item with
    | .error panic => return .error panic
    | .ok none => return .ok []
    | .ok (some options) => do
      let fullName := qualified modules item.ident.text
      Telling.tell (.foundEnumeration fullName)
      return .ok [⟨fullName, item, options⟩]
  | .other => return .ok []

/-- Searches some items one after the other, up to the first panic. -/
def tellAll (host : Host) (modules : List String) :
    List Item → Telling (Except Panic (List Found))
  | [] => return .ok []
  | item :: rest => do
    match ← tell host modules item with
    | .error panic => return .error panic
    | .ok front =>
      match ← tellAll host modules rest with
      | .error panic => return .error panic
      | .ok back => return .ok (front ++ back)

end

end Item

/-- What is told of enumerations that were found. -/
def Found.announced (all : List Found) : List Event :=
  all.map fun found => .foundEnumeration found.fullName

/-- A search that returns what another one returns, and has told what it found if it did not end
with a panic. -/
def Telling.Finds (run : Telling (Except Panic (List Found)))
    (found : Except Panic (List Found)) : Prop :=
  ∃ events, run.Logs found events ∧ ∀ all, found = .ok all → events = Found.announced all

namespace Item

mutual

/-- The search of an item finds what it should and tells it. -/
theorem finds_tell (host : Host) (modules : List String) (item : Item) :
    (tell host modules item).Finds (found host modules item) := by
  cases item with
  | module name items => exact finds_tellAll host (modules ++ [name.text]) items
  | other => exact ⟨[], logs_pure _, by simp [found, Found.announced]⟩
  | enumeration item =>
    unfold tell found
    cases host.wrapperOptions item with
    | error panic => exact ⟨[], logs_pure _, by simp⟩
    | ok answer =>
      cases answer with
      | none => exact ⟨[], logs_pure _, by simp [Found.announced]⟩
      | some options =>
        exact ⟨_, (Telling.logs_tell _).bind_pure rfl, by simp [Found.announced]⟩

/-- What is found in an item is told before what is found behind it. -/
theorem finds_tellAll (host : Host) (modules : List String) (items : List Item) :
    (tellAll host modules items).Finds (foundAll host modules items) := by
  cases items with
  | nil => exact ⟨[], logs_pure _, by simp [foundAll, Found.announced]⟩
  | cons item rest =>
    obtain ⟨first, hfirst, hannounced⟩ := finds_tell host modules item
    obtain ⟨others, hothers, hrest⟩ := finds_tellAll host modules rest
    unfold tellAll foundAll
    cases hfront : found host modules item with
    | error panic =>
      rw [hfront] at hfirst
      exact ⟨first, hfirst.bind_pure rfl, by simp⟩
    | ok front =>
      rw [hfront] at hfirst
      cases hback : foundAll host modules rest with
      | error panic =>
        rw [hback] at hothers
        exact ⟨first ++ others, hfirst.bind (hothers.bind_pure rfl), by simp⟩
      | ok back =>
        rw [hback] at hothers
        refine ⟨first ++ others, hfirst.bind (hothers.bind_pure rfl), ?_⟩
        simp [hannounced front hfront, hrest back hback, Found.announced]

end

end Item

/-! ### The enumerations one by one -/

/-- Resolves some variants and tells each member when it is resolved. -/
def Resolution.tell (host : Host) : List Variant → (ordinal : Int64) →
    Telling (Except Fault (List Member))
  | [], _ => return .ok []
  | variant :: rest, ordinal =>
    match step host variant ordinal with
    | .fault fault => return .error fault
    | .untagged ordinal => tell host rest (ordinal + 1)
    | .member member => do
      Telling.tell (.resolvedMember member)
      match ← tell host rest (member.ordinal + 1) with
      | .error fault => return .error fault
      | .ok members => return .ok (member :: members)

/-- The members that were found, unless a fault ended the search. -/
def Resolution.result (resolution : Resolution) : Except Fault (List Member) :=
  match resolution.fault with
  | some fault => .error fault
  | none => .ok resolution.members

/-- The members that are told are those that were found on the way. -/
theorem Resolution.logs_tell (host : Host) (variants : List Variant) (ordinal : Int64) :
    (Resolution.tell host variants ordinal).Logs (ofVariants host variants ordinal).result
      ((ofVariants host variants ordinal).members.map Event.resolvedMember) := by
  induction variants generalizing ordinal with
  | nil => exact logs_pure _
  | cons variant rest ih =>
    unfold Resolution.tell ofVariants
    cases step host variant ordinal with
    | fault fault => exact logs_pure _
    | untagged ordinal => exact ih (ordinal + 1)
    | member member =>
      have hrest := ih (member.ordinal + 1)
      dsimp only
      generalize ofVariants host rest (member.ordinal + 1) = resolution at hrest ⊢
      obtain ⟨members, fault⟩ := resolution
      cases fault <;> exact Logs.after_tell (Logs.bind_pure hrest rfl)

/-- Resolves an annotated enumeration and tells its members. -/
def Declaration.tell (host : Host) (item : EnumItem) (fullName : String) :
    Except Problem WrapperOptions → Telling (Except Fault Declaration)
  | .error problem => return .error (.invalid problem)
  | .ok options =>
    if item.variants.isEmpty then return .error (.invalid ⟨.noVariants, item.braces⟩)
    else
      match representation item.attributes with
      | .error problem => return .error (.invalid problem)
      | .ok repr => do
        match ← Resolution.tell host item.variants 0 with
        | .error fault => return .error fault
        | .ok members => return .ok (ofResolution item fullName options repr members)

/-- The declaration is the one that is resolved, and nothing but members is told. -/
theorem Declaration.logs_tell (host : Host) (item : EnumItem) (fullName : String)
    (options : Except Problem WrapperOptions) :
    (Declaration.tell host item fullName options).Logs (resolve host item fullName options).2
      ((resolve host item fullName options).1.map Event.resolvedMember) := by
  unfold Declaration.tell resolve
  cases options with
  | error problem => exact logs_pure _
  | ok options =>
    dsimp only
    split
    · exact logs_pure _
    · cases representation item.attributes with
      | error problem => exact logs_pure _
      | ok repr =>
        have hvariants := Resolution.logs_tell host item.variants 0
        dsimp only
        generalize Resolution.ofVariants host item.variants 0 = resolution at hvariants
        obtain ⟨members, fault⟩ := resolution
        cases fault <;> exact hvariants.bind_pure rfl

namespace Found

/-- Generates the unit of an enumeration, and tells what becomes of it. -/
def tell (host : Host) (found : Found) : Telling Outcome := do
  match ← Declaration.tell host found.item found.fullName found.options with
  | .ok declaration =>
    Telling.tell (.generatingWrapper declaration)
    return .ok (found.unit host.schema declaration)
  | .error (.invalid problem) =>
    Telling.tell (.invalidDeclaration found.fullName problem)
    return .error ⟨found.fullName, .invalid problem⟩
  | .error (.panicked panic) =>
    Telling.tell (.generatorPanicked found.fullName panic)
    return .error ⟨found.fullName, .panicked panic⟩

/-- The events of an enumeration are told while its unit is generated. -/
theorem logs_tell (host : Host) (found : Found) :
    (found.tell host).Logs (found.outcome host) (found.events host) := by
  have hdeclaration := Declaration.logs_tell host found.item found.fullName found.options
  unfold outcome events resolve
  generalize Declaration.resolve host found.item found.fullName found.options = resolved
    at hdeclaration
  obtain ⟨members, result⟩ := resolved
  cases result with
  | ok declaration => exact hdeclaration.bind ((Telling.logs_tell _).bind_pure rfl)
  | error fault => cases fault <;> exact hdeclaration.bind ((Telling.logs_tell _).bind_pure rfl)

/-- Generates the units of some enumerations in their order. -/
def tellAll (host : Host) : List Found → Telling (List Outcome)
  | [] => return []
  | found :: rest => do
    let outcome ← found.tell host
    return outcome :: (← tellAll host rest)

/-- The events of one enumeration are told before those of the next one. -/
theorem logs_tellAll (host : Host) (all : List Found) :
    (tellAll host all).Logs (all.map (outcome host)) (all.flatMap (events host)) := by
  induction all with
  | nil => exact logs_pure _
  | cons found rest ih =>
    rw [List.map_cons, List.flatMap_cons]
    exact (found.logs_tell host).bind (ih.bind_pure rfl)

end Found

/-! ### The whole run -/

namespace Host

/-- Generates the wrappers of a file: the schema is told, then what is found in the whole file, and
then one enumeration after the other. -/
def tell (host : Host) (file : SourceFile) : Telling (Except Panic (List Outcome)) := do
  Telling.tell (.registeredSchema host.schema)
  match ← Item.tellAll host [] file with
  | .error panic => return .error panic
  | .ok found => return .ok (← Found.tellAll host found)

/-- A run has the outcomes of a generation, and its events are appended to the log in their order.
Where there is no generation, the run ends with the same panic. -/
theorem logs_tell (host : Host) (file : SourceFile) :
    ∃ events, (host.tell file).Logs ((host.generate file).map Generation.outcomes) events ∧
      ∀ generation, host.generate file = .ok generation → events = generation.events := by
  obtain ⟨announced, hsearch, hannounced⟩ := Item.finds_tellAll host [] file
  unfold generate Host.found
  cases hall : Item.foundAll host [] file with
  | error panic =>
    rw [hall] at hsearch
    exact ⟨_, Logs.after_tell (Logs.bind_pure hsearch rfl), by simp⟩
  | ok all =>
    rw [hall] at hsearch
    have hunits := Found.logs_tellAll host all
    refine ⟨_, Logs.after_tell (hsearch.bind (Logs.bind_pure hunits rfl)), ?_⟩
    rintro generation hgeneration
    obtain rfl := Except.ok.inj hgeneration
    rw [hannounced all hall]
    rfl

end Host

end ValuedEnum
