/-!
# File systems

A file system is a list of entries by their place, the names from its root down. The root is a
directory. A path is followed name by name; `.` and an empty name stay in a directory, `..` leaves
it.
-/

namespace ValuedEnum

/-- An entry of a directory. -/
inductive FileNode where
  | directory
  | file (content : ByteArray)
deriving Inhabited

/-- Why a file can not be accessed. -/
inductive AccessError where
  | missing
  | isDirectory
  | notDirectory
  | nameTooLong
  | zeroInName
  | notText
deriving DecidableEq, Repr, Inhabited

/-- The text that a system has for an error. -/
def AccessError.message : AccessError → String
  | missing => "No such file or directory (os error 2)"
  | isDirectory => "Is a directory (os error 21)"
  | notDirectory => "Not a directory (os error 20)"
  | nameTooLong => "File name too long (os error 36)"
  | zeroInName => "file name contained an unexpected NUL byte"
  | notText => "stream did not contain valid UTF-8"

/-- The names on the way from the root to an entry. -/
abbrev Place := List String

/-- A file system with its entries apart from the root. -/
structure FileSystem where
  entries : List (Place × FileNode)
deriving Inhabited

namespace FileSystem

/-- The file system with nothing but its root. -/
def empty : FileSystem := ⟨[]⟩

/-- The entry at a place, if there is one. -/
def node? (files : FileSystem) (place : Place) : Option FileNode :=
  if place.isEmpty then some .directory else files.entries.lookup place

/-- The file system with another entry at a place. -/
def insert (files : FileSystem) (place : Place) (node : FileNode) : FileSystem :=
  ⟨(place, node) :: files.entries.filter (·.1 != place)⟩

/-- The longest name of an entry, in bytes. -/
def maxNameLength : Nat := 255

/-- The longest path, in bytes. -/
def maxPathLength : Nat := 4095

/-- What stands between the slashes of a path. -/
def parts (path : String) : List String :=
  (path.toList.splitOnP (· == '/')).map String.ofList

/-- The place that the names of a path lead to, of which the last one need not exist. -/
def follow (files : FileSystem) : (place : Place) → List String → Except AccessError Place
  | place, [] => .ok place
  | place, name :: rest =>
    match files.node? place with
    | none => .error .missing
    | some (.file _) => .error .notDirectory
    | some .directory =>
      if name = "" || name = "." then follow files place rest
      else if name = ".." then follow files place.dropLast rest
      else if maxNameLength < name.utf8ByteSize then .error .nameTooLong
      else follow files (place ++ [name]) rest

/-- The place that a path leads to. -/
def locate (files : FileSystem) (path : String) : Except AccessError Place :=
  if path.toList.contains '\x00' then .error .zeroInName
  else if path.isEmpty then .error .missing
  else if maxPathLength < path.utf8ByteSize then .error .nameTooLong
  else files.follow [] (parts path)

/-- The content of a file. -/
def read (files : FileSystem) (path : String) : Except AccessError ByteArray :=
  match files.locate path with
  | .error problem => .error problem
  | .ok place =>
    match files.node? place with
    | none => .error .missing
    | some .directory => .error .isDirectory
    | some (.file content) => .ok content

/-- The text of a file. -/
def readText (files : FileSystem) (path : String) : Except AccessError String :=
  match files.read path with
  | .error problem => .error problem
  | .ok content =>
    match String.fromUTF8? content with
    | some text => .ok text
    | none => .error .notText

/-- Writes a file, in the place of one that exists. -/
def write (files : FileSystem) (path : String) (content : ByteArray) :
    Except AccessError FileSystem :=
  match files.locate path with
  | .error problem => .error problem
  | .ok place =>
    match files.node? place with
    | some .directory => .error .isDirectory
    | _ => .ok (files.insert place (.file content))

/-- Writes a text into a file. -/
def writeText (files : FileSystem) (path text : String) : Except AccessError FileSystem :=
  files.write path text.toUTF8

/-- Creates the directories that a path leads through. -/
def createAll (files : FileSystem) : (place : Place) → List String → FileSystem
  | _, [] => files
  | place, name :: rest =>
    if name = "" || name = "." then createAll files place rest
    else if name = ".." then createAll files place.dropLast rest
    else
      match files.node? (place ++ [name]) with
      | none => createAll (files.insert (place ++ [name]) .directory) (place ++ [name]) rest
      | some _ => createAll files (place ++ [name]) rest

/-- Creates the directories on the way along a path, as far as nothing is there yet. -/
def createDirectories (files : FileSystem) (path : String) : FileSystem :=
  files.createAll [] (parts path)

/-- The name of an entry of a directory. -/
def nameIn? (directory : Place) (place : Place) : Option String :=
  if place.dropLast = directory then place.getLast? else none

/-- The names in a directory, in the order of their characters. -/
def names (files : FileSystem) (path : String) : Except AccessError (List String) :=
  match files.locate path with
  | .error problem => .error problem
  | .ok place =>
    match files.node? place with
    | none => .error .missing
    | some (.file _) => .error .notDirectory
    | some .directory =>
      .ok ((files.entries.filterMap fun entry => nameIn? place entry.1).mergeSort (· ≤ ·))

/-- A path to an entry of a directory. A name that starts at the root replaces the directory. -/
def join (directory name : String) : String :=
  if directory.isEmpty || name.toList.head? = some '/' then name
  else if directory.toList.getLast? = some '/' then directory ++ name
  else directory ++ "/" ++ name

end FileSystem

end ValuedEnum
