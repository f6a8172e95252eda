import Bindery.Method.Basic
import Bindery.Name.Version
import Bindery.Schema.Document

/-!
# API trees

What a package is generated from: the APIs by name, each with the methods of its versions.
-/
namespace Bindery

/-- One API: what is known of it, and the methods of each version, in the order of arrival. -/
structure ApiNode where
  metadata : Schema.Metadata
  versions : List (String × List Method) := []
  deriving Inhabited, Repr

/-- The APIs by name. -/
abbrev ApiTree := List (String × ApiNode)

/-- The versions with at least one method, ascending. -/
def ApiNode.generatedVersions (api : ApiNode) : List String :=
  ((api.versions.filter fun version => !version.2.isEmpty).map Prod.fst).mergeSort (· ≤ ·)

def ApiNode.methods (api : ApiNode) (version : String) : List Method :=
  (api.versions.lookup version).getD []

end Bindery
