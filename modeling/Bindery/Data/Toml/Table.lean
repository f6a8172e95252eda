import Bindery.Data.Datum

/-!
# Tables under construction

The tables of a TOML document come in pieces. What a later piece may add to depends on how the
earlier ones were written: a table has one header, tables made by dotted keys get none, and tables
and lists written in place get no more members.
-/
namespace Bindery.Data.Toml

/-- The way to a table from the root. -/
abbrev Key := List String

/-- A document under construction. -/
structure Draft where
  members : List (String × Datum) := []
  /-- Tables that get no header any more. -/
  settled : List Key := []
  /-- Values that get no members any more, at any depth. -/
  frozen : List Key := []
  /-- Tables that get no header after the present section. -/
  pending : List Key := []

namespace Draft

def isSettled (draft : Draft) (key : Key) : Bool := draft.settled.contains key

def isFrozen (draft : Draft) (key : Key) : Bool := draft.frozen.any (·.isPrefixOf key)

/-- Change the table behind a key, creating what is missing on the way. With `last`, a list on the way
stands for its last item. -/
def update (last : Bool) (change : List (String × Datum) → Option (List (String × Datum))) :
    Key → List (String × Datum) → Option (List (String × Datum))
  | [], members => change members
  | name :: rest, members =>
    match members.lookup name with
    | none => (update last change rest []).map fun inner => members ++ [(name, .object inner)]
    | some (.object inner) =>
      (update last change rest inner).map fun changed => insertMember members name (.object changed)
    | some (.list items) =>
      match last, items.getLast? with
      | true, some (.object inner) =>
        (update last change rest inner).map fun changed =>
          insertMember members name (.list (items.dropLast ++ [.object changed]))
      | _, _ => none
    | some _ => none

/-- Add a member that is not there yet. -/
def addNew (name : String) (value : Datum) (members : List (String × Datum)) :
    Option (List (String × Datum)) :=
  if (members.lookup name).isSome then none else some (members ++ [(name, value)])

def addTable (name : String) (members : List (String × Datum)) : Option (List (String × Datum)) :=
  match members.lookup name with
  | none => some (members ++ [(name, .list [.object []])])
  | some (.list items) => some (insertMember members name (.list (items ++ [.object []])))
  | some _ => none

def endSection (draft : Draft) : Draft :=
  { draft with settled := draft.pending ++ draft.settled, pending := [] }

/-- The header of a table. -/
def openTable (draft : Draft) (key : Key) : Option Draft :=
  if draft.isSettled key || draft.isFrozen key then none
  else (update true some key draft.members).map fun members =>
    { draft with members, settled := key :: draft.settled }

/-- The header of the next table of a list. What was said of the one before is forgotten. -/
def openItem (draft : Draft) (key : Key) : Option Draft :=
  if draft.isFrozen key then none
  else match key.getLast? with
    | none => none
    | some name => (update true (addTable name) key.dropLast draft.members).map fun members =>
      -- The new item starts afresh: its tables may be named like those of the one before.
      { draft with
        members
        settled := key :: draft.settled.filter fun other => !key.isPrefixOf other
        frozen := draft.frozen.filter fun other => !key.isPrefixOf other }

/-- Lists and tables written in place. -/
def isCompound : Datum → Bool
  | .list _ | .object _ => true
  | _ => false

/-- The tables that a dotted key leads through. -/
def waypoints (header key : Key) : List Key :=
  (List.range (key.length - 1)).map fun n => header ++ key.take (n + 1)

def assign (draft : Draft) (header key : Key) (value : Datum) : Option Draft :=
  let through := waypoints header key
  let parent := header ++ key.dropLast
  -- A dotted key may not lead through a table that has a header of its own.
  if through.any draft.isSettled || draft.isFrozen parent then none
  else match key.getLast? with
    | none => none
    | some name => (update true (addNew name value) parent draft.members).map fun members =>
      { draft with
        members
        frozen := if isCompound value then (header ++ key) :: draft.frozen else draft.frozen
        pending := through ++ draft.pending }

/-- Set the value of a key in a table written in place. -/
def assignInline (draft : Draft) (key : Key) (value : Datum) : Option Draft :=
  if draft.isFrozen key then none
  else match key.getLast? with
    | none => none
    | some name => (update false (addNew name value) key.dropLast draft.members).map fun members =>
      { draft with
        members
        frozen := if isCompound value then key :: draft.frozen else draft.frozen }

end Draft

end Bindery.Data.Toml
