import Bindery.CommandLine.Program
import Bindery.Files.Changes
import Bindery.Network.Recorded

/-!
# The command

Reads the files under the working directory, runs the program on them, and makes the changes that the
run calls for. The web is a file of recorded answers, named by a variable of the environment; without
one nothing is found.
-/
namespace Bindery

open Bindery.Data (Datum)
open Bindery.Files (Change FileAction FileTree)
open Bindery.Network (Web)

/-- The variable that names the file of recorded answers. -/
def repliesVariable : String := "BINDERY_REPLIES"

/-- Read a file into a tree, with the directories on the way to it. -/
def readInto (tree : FileTree) (path : String) : IO FileTree := do
  let content ← IO.FS.readBinFile path
  return (FileAction.placeFile (.ofText path) content.toList).applyTo tree

/-- Read what is in a directory into a tree. -/
partial def readBelow (tree : FileTree) (path : String) : IO FileTree := do
  let mut found := (FileAction.makeDirectories (.ofText path)).applyTo tree
  for entry in ← (← IO.FS.realPath path).readDir do
    let inside := path ++ "/" ++ entry.fileName
    found ← if ← entry.path.isDir then readBelow found inside else readInto found inside
  return found

/-- The files that a run can see: those under the working directory and the settings file that is
named, if it can be read. -/
def readFiles (arguments : List String) : IO FileTree := do
  let files ← readBelow {} "."
  match CommandLine.Command.ofArguments arguments with
  | .ok (.generate (some named) _ _) => readInto files named <|> pure files
  | _ => return files

/-- The variables of the environment that set fields. -/
def readEnvironment : IO (List (String × String)) := do
  let names := Settings.fields.map fun field => Settings.usualStart ++ Text.upper field
  let found ← names.mapM fun name => return (← IO.getEnv name).map (name, ·)
  return found.filterMap id

def readWeb : IO Web := do
  let some path ← IO.getEnv repliesVariable | return Web.ofRecord (.object [])
  match Data.Json.read (← IO.FS.readFile path) with
  | .ok record => return Web.ofRecord record
  | .error _ => throw (IO.userError (path ++ " holds no recorded answers"))

def applyChange : Change → IO Unit
  | .removeFile path => IO.FS.removeFile path
  | .removeDirectory path => IO.FS.removeDir path
  | .makeDirectory path => IO.FS.createDirAll path
  | .write path content => IO.FS.writeBinFile path ⟨content.toArray⟩

def runCommand (arguments : List String) : IO UInt32 := do
  let files ← readFiles arguments
  let directory := (← IO.FS.realPath ".").toString
  let environment ← readEnvironment
  let outcome := CommandLine.run { directory, files, environment } (← readWeb) arguments
  (files.changes outcome.files).forM applyChange
  outcome.printed.forM IO.println
  outcome.advice.forM IO.eprintln
  return UInt32.ofNat outcome.exitCode

end Bindery

def main (arguments : List String) : IO UInt32 := Bindery.runCommand arguments
