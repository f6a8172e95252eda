import Bindery.Name.Identifier

/-!
# File paths

A path is written with slashes; empty and single-dot segments mean nothing. Two dots lead back to
the directory that holds the one before them, so what a path leads to depends on what there is.
-/
namespace Bindery.Files

/-- A path as written, without segments that mean nothing. -/
structure FilePath where
  absolute : Bool
  segments : List String
  deriving DecidableEq, Repr, Inhabited

namespace FilePath

def ofText (text : String) : FilePath where
  absolute := text.toList.head? = some '/'
  segments := ((Name.splitOnAny (· = '/') text.toList).map String.ofList).filter fun segment =>
    segment != "" && segment != "."

/-- The text of a path; the working directory is a dot. -/
def text (path : FilePath) : String :=
  let joined := String.intercalate "/" path.segments
  if path.absolute then "/" ++ joined else if joined.isEmpty then "." else joined

/-- A path below another one; an absolute one stands for itself. -/
def join (path : FilePath) (below : String) : FilePath :=
  let other := ofText below
  if other.absolute then other else { path with segments := path.segments ++ other.segments }

/-- The path of what holds the end of a path; the shortest paths stand for themselves. -/
def parent (path : FilePath) : FilePath := { path with segments := path.segments.dropLast }

/-- The part of a file name from its last dot on; a dot at either end begins none. -/
def extension (path : FilePath) : String :=
  match path.segments.getLast? with
  | none => ""
  | some name =>
    let reversed := name.toList.reverse
    let tail := reversed.takeWhile (· ≠ '.')
    match reversed.dropWhile (· ≠ '.') with
    | '.' :: stem =>
      if tail.isEmpty || stem.isEmpty then "" else String.ofList ('.' :: tail.reverse)
    | _ => ""

end FilePath

end Bindery.Files
