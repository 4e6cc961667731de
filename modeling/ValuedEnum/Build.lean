import ValuedEnum.FileSystem
import ValuedEnum.Generation
import ValuedEnum.SourceText

/-!
# Generating wrappers into a directory

Each unit of a file becomes a file of its own. Declarations without a unit are skipped; a file that
can not be written ends the run, and what was written before stays.
-/

namespace ValuedEnum

/-- Why a build came to no end. -/
inductive BuildError where
  | access (path : String) (error : AccessError)
  | source (path : String) (problem : Problem)
  /-- The host panicked while the file was scanned. -/
  | panicked (panic : Panic)
deriving Repr, Inhabited

namespace BuildError

/-- The text that an error is shown as. -/
def display : BuildError → String
  | access path _ => "failed to access `" ++ path ++ "`"
  | source path _ => "failed to parse `" ++ path ++ "`"
  | panicked panic => panic.message

/-- The text of what caused an error. -/
def message : BuildError → String
  | access _ error => error.message
  | source _ problem => problem.message
  | panicked panic => panic.message

end BuildError

/-- What a build leaves behind: the files, the log, and the paths that were written. -/
structure Build where
  files : FileSystem
  events : List Event
  result : Except BuildError (List String)
deriving Inhabited

namespace Build

/-- Another event and perhaps a written path in front of what else a build did. -/
def after (event : Event) (path : Option String) (build : Build) : Build :=
  { build with
    events := event :: build.events
    result := build.result.map (path.toList ++ ·) }

/-- Writes the units among some outcomes. -/
def writeAll (out : String) : FileSystem → List Outcome → Build
  | files, [] => ⟨files, [], .ok []⟩
  | files, .error diagnostic :: rest =>
    (writeAll out files rest).after (.skippedDeclaration diagnostic.declaration) none
  | files, .ok unit :: rest =>
    let path := FileSystem.join out unit.name
    match files.writeText path unit.text with
    | .error error => ⟨files, [], .error (.access path error)⟩
    | .ok files => (writeAll out files rest).after (.wroteUnit path) (some path)

/-- Generates the wrappers of the file `input` into the directory `out`. -/
def run (host : Host) (files : FileSystem) (input out : String) : Build :=
  match files.readText input with
  | .error error => ⟨files, [], .error (.access input error)⟩
  | .ok text =>
    match SourceFile.ofText text with
    | .error problem => ⟨files, [], .error (.source input problem)⟩
    | .ok file =>
      match host.generate file with
      | .error panic => ⟨files, [], .error (.panicked panic)⟩
      | .ok generation => writeAll out files generation.outcomes

end Build

end ValuedEnum
