import Bindery.Failure
import Bindery.Files.Tree
import Bindery.Package.IndexModule
import Bindery.Package.VersionModule
import Bindery.Source.Legality
import Bindery.Text.Charset

/-!
# Writing a package

A package replaces what an earlier run left: the modules under `apis/` and the root module. Version
modules are written first and the root module last. A module that has no text, or is no program,
stops the writing; what was written before it stays.
-/
namespace Bindery

open Bindery.Files (FileAction FilePath FileTree Refusal)
open Bindery.Source (PrintFault Stmt)

/-- How a package is written. -/
structure EmissionSettings where
  output : FilePath
  /-- Is each module checked before it is written? -/
  validate : Bool := true
  /-- The year for the header of the modules. -/
  year : Option Int := none

/-- Files, and the paths written so far. -/
structure Workspace where
  files : FileTree := {}
  written : List String := []
  deriving Inhabited

/-- Why writing stops. -/
inductive EmissionFault where
  /-- The system refused an operation; `path` is what could not be written. -/
  | refused (path : String) (refusal : Refusal)
  /-- A path is none for the system. -/
  | unusablePath (refusal : Refusal)
  /-- A module, or its name, has a null character. -/
  | nullCharacter
  /-- A module is no program. -/
  | illegal (module : String)
  /-- A module has no text. -/
  | unprintable (fault : PrintFault)
  deriving DecidableEq, Repr

def refusalFailure (path : String) (refusal : Refusal) : Failure :=
  .output path (some refusal.message)

/-- What is said of a module that is no program. -/
def illegalMessage (module : String) : String := "Generated code for " ++ module ++ " has invalid syntax"

/-- A step of writing; its effects stay when it fails. -/
abbrev Emission := ExceptT EmissionFault (StateM Workspace)

namespace Emission

/-- A refusal about something that is to be written. -/
def refusalFault (path : FilePath) (refusal : Refusal) : EmissionFault :=
  if refusal.kind = .nullCharacter then .unusablePath refusal else .refused path.text refusal

/-- Change the files; a refusal is told of a path. -/
def onFiles (path : FilePath) (action : FileAction Unit) : Emission Unit := do
  let (result, files) := StateT.run (ExceptT.run action) (← get).files
  modify fun workspace => { workspace with files }
  if let .error refusal := result then throw (refusalFault path refusal)

/-- Remove something if it is there; a refusal is told of the output. -/
def removeWith (settings : EmissionSettings) (action : FilePath → FileAction Unit) (name : String) :
    Emission Unit := do
  let path := settings.output.join name
  match (← get).files.pathExists path with
  | .error refusal => throw (refusalFault settings.output refusal)
  | .ok present => if present then onFiles settings.output (action path)

/-- Remove what an earlier run left. -/
def clean (settings : EmissionSettings) : Emission Unit := do
  removeWith settings FileAction.removeDirectory "apis"
  removeWith settings FileAction.removeFile "__init__.py"

/-- Write one file and the directories it needs. -/
def writeFile (settings : EmissionSettings) (name content : String) : Emission String := do
  let path := settings.output.join name
  onFiles path (FileAction.placeFile path (Text.encodeUtf8 content))
  modify fun workspace => { workspace with written := workspace.written ++ [path.text] }
  return path.text

def header : Option Int → String
  | some year => "# Automatically generated by rbxapi (" ++ toString year ++ ")\n"
  | none => ""

/-- Check a module before it is written. What has a null character is not even looked at. -/
def check (statements : List Stmt) (name source : String) : Except EmissionFault Unit :=
  if name.contains '\x00' || source.contains '\x00' then .error .nullCharacter
  else if Source.areLegalAll statements then .ok ()
  else .error (.illegal name)

def writeModule (settings : EmissionSettings) (statements : List Stmt) (name : String) :
    Emission String := do
  match Source.printModule statements with
  | .error fault => throw (.unprintable fault)
  | .ok source =>
    -- The check comes before the file is touched: a module that is no program leaves none.
    if settings.validate then ExceptT.mk (pure (check statements name source))
    writeFile settings (name ++ ".py") (header settings.year ++ source ++ "\n")

/-- The version modules of a tree with their names, in the order in which they are written. -/
def versionModules (tree : ApiTree) : List (String × List Stmt) :=
  tree.flatMap fun (_, api) => api.generatedVersions.map fun version =>
    ("apis/" ++ Name.versionClass api.metadata.identifier version, versionModule api version)

/-- Replace the package by that of a tree. All paths written so far are returned. -/
def emit (settings : EmissionSettings) (tree : ApiTree) : Emission (List String) := do
  clean settings
  let _ ← writeFile settings "apis/__init__.py" ""
  for (name, statements) in versionModules tree do
    let _ ← writeModule settings statements name
  let _ ← writeModule settings (indexModule tree) "__init__"
  return (← get).written

def perform {α : Type} (step : Emission α) (workspace : Workspace) :
    Except EmissionFault α × Workspace := StateT.run (ExceptT.run step) workspace

end Emission

end Bindery
