import ManifestLint.Config
import ManifestLint.Event
import ManifestLint.Manifest
import ManifestLint.Text.Pieces

namespace ManifestLint

namespace Path

open Text

def isAbsolute (path : String) : Bool := path.toList.head? == some '/'

/-- The components of a path. Repeated slashes and inner dots do not count; a dot at the start of a
relative path does. -/
def components (path : String) : List (List Char) :=
  match splitAt '/' path.toList with
  | [] => []
  | first :: rest =>
    let rest := rest.filter fun c ↦ c != [] && c != ['.']
    if first = [] then rest else first :: rest

def same (p q : String) : Bool := isAbsolute p == isAbsolute q && components p == components q

def join (directory name : String) : String :=
  match directory.toList.getLast? with
  | none => name
  | some '/' => directory ++ name
  | some _ => directory ++ "/" ++ name

end Path

inductive Disk.Entry where
  | missing
  | notADirectory
  | directory
  | file (text : Option String)
deriving DecidableEq, Repr

abbrev Disk := String → Disk.Entry

namespace Disk

inductive ReadError where
  | missing | notADirectory | directory | notText
deriving DecidableEq, Repr

def ReadError.message : ReadError → String
  | .missing => "No such file or directory (os error 2)"
  | .notADirectory => "Not a directory (os error 20)"
  | .directory => "Is a directory (os error 21)"
  | .notText => "stream did not contain valid UTF-8"

def Entry.read : Entry → Except ReadError String
  | .missing => .error .missing
  | .notADirectory => .error .notADirectory
  | .directory => .error .directory
  | .file none => .error .notText
  | .file (some text) => .ok text

def Entry.isFile : Entry → Bool
  | .file _ => true
  | _ => false

end Disk

inductive Manifest.LoadError where
  | unreadable (path : String) (cause : Disk.ReadError)
  | notADump (cause : Json.Problem)
deriving DecidableEq, Repr

def Manifest.load (disk : Disk) (path : String) : Except LoadError Manifest :=
  match (disk path).read with
  | .error cause => .error (.unreadable path cause)
  | .ok text =>
    match Manifest.ofDump text with
    | .ok m => .ok m
    | .error cause => .error (.notADump cause)

def Manifest.unreadableMessage (path : String) (cause : Disk.ReadError) : String :=
  s!"Failed to read {path}: {cause.message}"

inductive Config.LoadError where
  | unreadable (path : String) (cause : Disk.ReadError)
  | notAConfig
deriving DecidableEq, Repr

def Config.load (disk : Disk) (path : String) : Except LoadError Config :=
  match (disk path).read with
  | .error cause => .error (.unreadable path cause)
  | .ok text =>
    match Config.parse text with
    | some c => .ok c
    | none => .error .notAConfig

def Config.unreadableMessage (path : String) (cause : Disk.ReadError) : String :=
  s!"Failed to read config file {path}: {cause.message}"

namespace Disk

open Text

/-- Files and directories by their places, which are steps down from the working directory. -/
structure Tree where
  directories : List (List (List Char))
  files : List (List (List Char) × Option String)

namespace Tree

def steps (path : String) : List (List Char) :=
  (splitAt '/' path.toList).filter fun c ↦ c != [] && c != ['.']

/-- A place: below the working directory, or above it and some steps down. -/
inductive Place where
  | below (steps : List (List Char))
  | outside

def Place.start (path : String) : Place :=
  if Path.isAbsolute path then .outside else .below []

def Place.next : Place → List Char → Place
  | .outside, _ => .outside
  | .below steps, name =>
    if name = ['.', '.'] then if steps.isEmpty then .outside else .below steps.dropLast
    else .below (steps ++ [name])

def empty : Tree := ⟨[], []⟩

def at? (t : Tree) (place : List (List Char)) : Entry :=
  match t.files.lookup place with
  | some text => .file text
  | none => if place.isEmpty || t.directories.contains place then .directory else .missing

def grow (t : Tree) : Place → Tree
  | .outside => t
  | .below steps =>
    match t.at? steps with
    | .missing => { t with directories := t.directories ++ [steps] }
    | _ => t

/-- Makes the directories on a way, also those that the way leaves again by two dots. Gives the
place it ends at. -/
def makeWay (t : Tree) (place : Place) : List (List Char) → Tree × Place
  | [] => (t, place)
  | name :: names => (t.grow (place.next name)).makeWay (place.next name) names

def addDirectory (t : Tree) (path : String) : Tree :=
  (t.makeWay (.start path) (steps path)).1

def addFile (t : Tree) (path : String) (text : Option String) : Tree :=
  let (t, directory) := t.makeWay (.start path) (steps path).dropLast
  match directory.next ((steps path).getLast?.getD []) with
  | .outside => t
  | .below place => { t with files := t.files.filter (·.1 != place) ++ [(place, text)] }

/-- Goes one step from a place that has to be a directory. Nothing is known of places outside but
that they are directories. -/
def step (t : Tree) (place : Place) (name : List Char) : Except ReadError Place :=
  match place with
  | .outside => if name = ['.', '.'] then .ok .outside else .error .missing
  | .below steps =>
    match t.at? steps with
    | .directory => .ok (place.next name)
    | .file _ => .error .notADirectory
    | _ => .error .missing

def meansDirectory (path : String) : Bool :=
  match (splitAt '/' path.toList).getLast? with
  | some last => last == [] || last == ['.']
  | none => false

/-- The bytes from which on a path leads nowhere. -/
def tooLong : Nat := 4096

def disk (t : Tree) : Disk := fun path ↦
  if path.isEmpty || tooLong ≤ path.utf8ByteSize then .missing
  else
    match (steps path).foldlM t.step (.start path) with
    | .error .notADirectory => .notADirectory
    | .error _ => .missing
    | .ok .outside => .directory
    | .ok (.below place) =>
      match t.at? place with
      | .file text => if meansDirectory path then .notADirectory else .file text
      | entry => entry

end Tree

end Disk

namespace Config

inductive Origin where
  | asked (path : String)
  | project (path : String)
  | shared (path : String)
  | nowhere
deriving DecidableEq, Repr

namespace Origin

def projectPaths : List String := ["./pp-lint.toml", "./.pp-lint.toml"]

def sharedPath (directory home : Option String) : Option String :=
  let directory := match directory with
    | some d => if d.isEmpty then home.map (Path.join · ".pp-lint") else some d
    | none => home.map (Path.join · ".pp-lint")
  directory.map (Path.join · "config.toml")

/-- Finds the configuration. A path that is asked for is taken even if nothing lies there. -/
def find (disk : Disk) (shared : Option String) : Option String → Origin
  | some path => .asked path
  | none =>
    match projectPaths.find? fun p ↦ (disk p).isFile with
    | some path => .project path
    | none =>
      match shared.filter fun p ↦ (disk p).isFile with
      | some path => .shared path
      | none => .nowhere

def path? : Origin → Option String
  | .asked path | .project path | .shared path => some path
  | .nowhere => none

def events : Origin → List Event
  | .project path => [.projectConfigFound path]
  | .shared path => [.globalConfigFound path, .globalConfigUsed path]
  | .asked _ | .nowhere => []

end Origin

end Config

end ManifestLint
