import Bindery.Discovery.Catalogue
import Bindery.Method.Compile
import Bindery.Package.Tree

/-!
# API trees from the web

The documentation of every version of every API is fetched and compiled. A version whose document is
not available or not usable is left out; what cannot be compiled ends the run.
-/
namespace Bindery.Discovery

open Bindery.Data (insertMember)
open Bindery.Network (Web fetchJson available?)
open Bindery.Schema (Metadata parseDocument)

/-- A version of an API whose documentation is wanted. -/
structure Edition where
  metadata : Metadata
  version : String
  deriving Repr, Inhabited

def editions (apis : List (String × Metadata)) : List Edition :=
  apis.flatMap fun (_, metadata) => metadata.versions.map fun version => ⟨metadata, version⟩

def Edition.address (edition : Edition) : String :=
  edition.metadata.url ++ "/docs/json/" ++ edition.version

/-- Fetch and compile the documentation of a version. -/
def Edition.fetchMethods (edition : Edition) (web : Web) : Run (Option (List Method)) :=
  match available? (fetchJson web edition.address) with
  | .error cause => .ofExcept (.error cause)
  | .ok none => return none
  | .ok (some value) =>
    match parseDocument value with
    | .invalid _ => return none
    | .valid document => do
      let methods ← Run.ofFailing (compileDocument edition.metadata document)
      return some methods

def setVersion (tree : ApiTree) (edition : Edition) (methods : List Method) : ApiTree :=
  tree.map fun (name, node) =>
    if name = edition.metadata.identifier then
      (name, { node with versions := insertMember node.versions edition.version methods })
    else (name, node)

/-- The tree of all APIs, without versions. -/
def bareTree (apis : List (String × Metadata)) : ApiTree :=
  apis.map fun (name, metadata) => (name, { metadata })

/-- Add what arrived to a tree. -/
def plant (tree : ApiTree) (arrivals : List (Edition × Option (List Method))) : ApiTree :=
  arrivals.foldl (fun tree (edition, methods) =>
    match methods with
    | some found => setVersion tree edition found
    | none => tree) tree

/-- Build the tree of the APIs. All versions are fetched at the same time and arrive as `order`
says. -/
def buildTreeIn (order : List Nat) (web : Web) (apis : List (String × Metadata)) : Run ApiTree := do
  let wanted := order.filterMap fun position => (editions apis)[position]?
  let arrived ← Run.gather (wanted.map fun edition => edition.fetchMethods web)
  return plant (bareTree apis) (wanted.zip arrived)

def buildTree (web : Web) (apis : List (String × Metadata)) : Run ApiTree :=
  buildTreeIn (List.range (editions apis).length) web apis

end Bindery.Discovery
