import Bindery.Files.Tree

/-!
# Changes between file trees

What has to be done to turn one tree into another: removals from the inside out, and then additions
from the outside in.
-/
namespace Bindery.Files

inductive Change where
  | removeFile (path : String)
  | removeDirectory (path : String)
  | makeDirectory (path : String)
  | write (path : String) (content : List UInt8)
  deriving DecidableEq, Repr

def pathOf (place : List String) : String :=
  match place with
  | "/" :: below => "/" ++ String.intercalate "/" below
  | _ => String.intercalate "/" place

/-- The entries of a tree, each after the directory that it is in. -/
def FileTree.fromOutside (tree : FileTree) : List (List String × Entry) :=
  tree.entries.mergeSort fun a b => a.1.length ≤ b.1.length

def FileTree.changes (old new : FileTree) : List Change :=
  let removed := old.fromOutside.filter fun entry => (new.entries.lookup entry.1).isNone
  let added := new.fromOutside.filter fun entry => old.entries.lookup entry.1 ≠ some entry.2
  (removed.reverse.map fun (place, entry) =>
    match entry with
    | .file _ => .removeFile (pathOf place)
    | .directory => .removeDirectory (pathOf place)) ++
  added.map fun (place, entry) =>
    match entry with
    | .file content => .write (pathOf place) content
    | .directory => .makeDirectory (pathOf place)

end Bindery.Files
