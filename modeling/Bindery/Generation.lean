import Bindery.Discovery.Candidates
import Bindery.Discovery.Documents
import Bindery.Settings.Basic

/-!
# Generating a package

A run finds the APIs, lists those that answer, compiles their documentation, and only then writes
files.
-/
namespace Bindery

open Bindery.Discovery (Link buildTree catalogue discover editions metadataAddress)
open Bindery.Network (Web)

/-- How far a run has come. -/
inductive Progress where
  | discovery
  | availability (available total : Nat)
  | compilation
  | emission
  deriving DecidableEq, Repr

def Progress.message : Progress → String
  | discovery => "Request for a list of Roblox endpoints..."
  | availability available total =>
    "Done. " ++ toString available ++ " / " ++ toString total ++ " endpoints are available."
  | compilation => "Construction of the API tree."
  | emission => "The tree is ready. File generation started."

/-- What there is to tell of a run. -/
structure Track where
  workspace : Workspace := {}
  progress : List Progress := []
  /-- The number of candidates. -/
  total : Nat := 0
  /-- The number of candidates with usable metadata. -/
  available : Nat := 0
  /-- Requested addresses, in order. -/
  requested : List String := []
  notices : List Notice := []
  deriving Inhabited

/-- A step of a run; what there is to tell of it stays when it is interrupted. -/
abbrev Tracked := ExceptT Interruption (StateM Track)

namespace Tracked

def report (step : Progress) : Tracked Unit :=
  modify fun track => { track with progress := track.progress ++ [step] }

/-- A stage that requests addresses. -/
def stage {α : Type} (addresses : List String) (run : Run α) : Tracked α := do
  modify fun track => { track with
    requested := track.requested ++ addresses
    notices := track.notices ++ run.notices }
  liftExcept run.result
where
  liftExcept : Except Interruption α → Tracked α
    | .ok value => pure value
    | .error cause => throw cause

/-- Find the APIs and compile their documentation. No file is touched. -/
def build (web : Web) (settings : Settings) : Tracked ApiTree := do
  report .discovery
  let links ← stage (settings.listings.map fun listing => listing.url)
    (discover web settings.listings settings.excludes)
  let found ← stage (links.map metadataAddress) (catalogue web links)
  -- The counts are known even if the run is interrupted later on.
  modify fun track => { track with total := links.length, available := found.available }
  report (.availability found.available links.length)
  report .compilation
  stage ((editions found.apis).map fun edition => edition.address) (buildTree web found.apis)

def write (settings : Settings) (tree : ApiTree) : Tracked (List String) := do
  report .emission
  let (result, workspace) := (Emission.emit settings.emission tree).perform (← get).workspace
  modify fun track => { track with workspace }
  match result with
  | .ok paths => return paths
  | .error fault => throw (.emission fault)

/-- A whole run; the paths written are returned. -/
def generate (web : Web) (settings : Settings) : Tracked (List String) := do
  write settings (← build web settings)

end Tracked

/-- Generate a package into some files. -/
def generate (web : Web) (settings : Settings) (files : Files.FileTree) :
    Except Interruption (List String) × Track :=
  StateT.run (ExceptT.run (Tracked.generate web settings)) { workspace := { files } }

end Bindery
