import Bindery.Files.Path
import Bindery.Text.Quoted

/-!
# File trees

The files and directories under the working directory as a value, and the operations on them that a
run needs, each with the ways in which it is refused. A path is followed from directory to directory:
every segment but the last one has to exist, also if two dots lead back from it.
-/
namespace Bindery.Files

/-- Why an operation on files is refused. -/
inductive RefusalKind where
  | notFound
  | exists
  | notDirectory
  | isDirectory
  /-- A name, or the whole path, has more bytes than the system takes. -/
  | nameTooLong
  /-- The path holds a null character, and is not passed to the system. -/
  | nullCharacter
  deriving DecidableEq, Repr

/-- A refused operation and the path it was tried on. -/
structure Refusal where
  kind : RefusalKind
  path : String
  deriving DecidableEq, Repr

/-- What is said of a refusal, in the system's words if it is the system that refuses. -/
def Refusal.message (refusal : Refusal) : String :=
  let system (words : String) : String := words ++ ": " ++ Text.literal refusal.path
  match refusal.kind with
  | .notFound => system "[Errno 2] No such file or directory"
  | .exists => system "[Errno 17] File exists"
  | .notDirectory => system "[Errno 20] Not a directory"
  | .isDirectory => system "[Errno 21] Is a directory"
  | .nameTooLong => system "[Errno 36] File name too long"
  | .nullCharacter => "embedded null byte"

/-- Where an entry is: the names from the working directory on, after a slash those from the root on,
and after two dots those from above the working directory on. -/
abbrev Place := List String

namespace Place

/-- The start, and what lies above it, always exist. -/
def isGiven (place : Place) : Bool := place = ["/"] || place.all (· = "..")

/-- The directory that holds a place; the root holds itself. -/
def above (place : Place) : Place :=
  if place = ["/"] then place
  else if place.isGiven then place ++ [".."]
  else place.dropLast

end Place

/-- What a path holds. -/
inductive Entry where
  | directory
  | file (content : List UInt8)
  deriving DecidableEq, Repr

/-- The entries by their place. Every place has one entry at most. -/
structure FileTree where
  entries : List (Place × Entry) := []
  deriving Repr, Inhabited

/-- An operation on files; what it changed stays when it is refused. -/
abbrev FileAction := ExceptT Refusal (StateM FileTree)

namespace FileTree

def entryAt? (tree : FileTree) (place : Place) : Option Entry :=
  if place.isGiven then some .directory else tree.entries.lookup place

/-- Put an entry at a place, in the place of what was there. -/
def put (tree : FileTree) (place : Place) (entry : Entry) : FileTree :=
  ⟨tree.entries.filter (fun e => e.1 ≠ place) ++ [(place, entry)]⟩

/-! ## Following paths -/

/-- The bytes of the longest name. -/
def nameLimit : Nat := 255

/-- The bytes of the longest path. -/
def pathLimit : Nat := 4095

/-- One segment further from a place, which has to be a directory. -/
def step (tree : FileTree) (place : Place) (segment : String) : Except RefusalKind Place :=
  match tree.entryAt? place with
  | none => .error .notFound
  | some (.file _) => .error .notDirectory
  | some .directory =>
    if segment = ".." then .ok place.above
    else if nameLimit < segment.utf8ByteSize then .error .nameTooLong
    else .ok (place ++ [segment])

/-- The place that a path leads to; there need not be anything yet. -/
def find (tree : FileTree) (path : FilePath) : Except RefusalKind Place :=
  if path.text.toList.contains '\x00' then .error .nullCharacter
  else if pathLimit < path.text.utf8ByteSize then .error .nameTooLong
  else path.segments.foldlM tree.step (if path.absolute then ["/"] else [])

/-- What a path leads to, if there is something. -/
def look? (tree : FileTree) (path : FilePath) : Except Refusal (Option Entry) :=
  match tree.find path with
  | .ok place => .ok (tree.entryAt? place)
  | .error kind => if kind = .nameTooLong then .error ⟨kind, path.text⟩ else .ok none

/-! ## Reading -/

def readFile (tree : FileTree) (path : FilePath) : Except Refusal (List UInt8) :=
  let refuse (kind : RefusalKind) : Except Refusal (List UInt8) := .error ⟨kind, path.text⟩
  match tree.find path with
  | .error kind => refuse kind
  | .ok place =>
    match tree.entryAt? place with
    | some (.file content) => .ok content
    | some .directory => refuse .isDirectory
    | none => refuse .notFound

/-- Does a path lead to something? -/
def pathExists (tree : FileTree) (path : FilePath) : Except Refusal Bool :=
  (tree.look? path).map Option.isSome

/-- The entries below the working directory by their paths, ascending. Directories end with a
slash. -/
def listing (tree : FileTree) : List (String × Option (List UInt8)) :=
  let inside := tree.entries.filter fun e => e.1.head? ≠ some "/" ∧ e.1.head? ≠ some ".."
  (inside.map fun e =>
    let path := String.intercalate "/" e.1
    match e.2 with
    | .directory => (path ++ "/", none)
    | .file content => (path, some content)).mergeSort (·.1 ≤ ·.1)

end FileTree

/-! ## Changing -/

namespace FileAction

def refuse {α : Type} (path : FilePath) (kind : RefusalKind) : FileAction α :=
  throw ⟨kind, path.text⟩

def locate (path : FilePath) : FileAction Place := do
  match (← get).find path with
  | .ok place => return place
  | .error kind => refuse path kind

def lookAt (place : Place) : FileAction (Option Entry) := do
  let tree ← get
  return tree.entryAt? place

/-- Create a directory in one that exists. -/
def makeDirectory (path : FilePath) : FileAction Unit := do
  let place ← locate path
  if (← lookAt place).isSome then refuse path .exists
  modify fun tree => tree.put place .directory

/-- Create a directory, unless there is one. -/
def ensureDirectory (path : FilePath) : FileAction Unit := do
  let before ← get
  try makeDirectory path
  catch refusal =>
    -- What is missing on the way, and what cannot be named, is no directory either.
    match refusal.kind, before.look? path with
    | .exists, .ok (some .directory) => pure ()
    | _, _ => throw refusal

/-- Create a directory and what is missing on the way to it, from the end of the path on: where
something is missing, the directory before is created first. -/
def makeDirectoriesFor (path : FilePath) : Nat → FileAction Unit
  | 0 => ensureDirectory path
  | steps + 1 => do
    try ensureDirectory path
    catch refusal =>
      if refusal.kind ≠ .notFound then throw refusal
      makeDirectoriesFor path.parent steps
      ensureDirectory path

/-- Create a directory and what is missing on the way to it. -/
def makeDirectories (path : FilePath) : FileAction Unit :=
  makeDirectoriesFor path path.segments.length

/-- Write a file into a directory that exists. -/
def writeFile (path : FilePath) (content : List UInt8) : FileAction Unit := do
  let place ← locate path
  if (← lookAt place) = some .directory then refuse path .isDirectory
  modify fun tree => tree.put place (.file content)

/-- Remove a directory with all that is in it. -/
def removeDirectory (path : FilePath) : FileAction Unit := do
  let place ← locate path
  match ← lookAt place with
  | some .directory =>
    modify fun tree => ⟨tree.entries.filter fun e => !place.isPrefixOf e.1⟩
  | some (.file _) => refuse path .notDirectory
  | none => refuse path .notFound

def removeFile (path : FilePath) : FileAction Unit := do
  let place ← locate path
  match ← lookAt place with
  | some (.file _) => modify fun tree => ⟨tree.entries.filter fun e => e.1 ≠ place⟩
  | some .directory => refuse path .isDirectory
  | none => refuse path .notFound

/-- Write a file, and create what is missing on the way to it. -/
def placeFile (path : FilePath) (content : List UInt8) : FileAction Unit := do
  makeDirectories path.parent
  writeFile path content

/-- The files after an operation, whether it was refused or not. -/
def applyTo (action : FileAction Unit) (tree : FileTree) : FileTree :=
  (StateT.run (ExceptT.run action) tree).2

end FileAction

end Bindery.Files
