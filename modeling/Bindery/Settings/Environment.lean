import Bindery.Data.Json
import Bindery.Settings.Basic
import Bindery.Settings.Options

/-!
# Settings from variables

A variable named for a field sets it, and fields that hold lists are written as JSON. The variables
are those of the environment, or those of a file.
-/
namespace Bindery.Settings

open Bindery.Data (Datum insertMember)

/-- Variables by their names, as far as they have values. -/
abbrev Variables := List (String × Option Datum)

/-- Variables as they are looked up. Of names that are the same the last one counts. -/
def Naming.namedValues (naming : Naming) (given : List (String × Option String)) : Variables :=
  given.foldl (fun found (name, value) =>
    if naming.ignoresEmpty && value = some "" then found
    else
      let meant := value.map fun text => if naming.nullText = some text then .null else .text text
      insertMember found (naming.fold name) meant) []

/-- Why the variables set nothing. -/
inductive VariableFault where
  /-- The variable of a field is no JSON. -/
  | unreadable (field : String) (fault : Data.Json.Fault)
  /-- There are variables for parts of a field, but their names cannot be divided. -/
  | undivided (field : String)
  | option (fault : OptionFault)
  deriving DecidableEq, Repr

/-- What variables for parts of a field make of it: a mapping, if there are some. -/
def Naming.parts? (naming : Naming) (given : Variables) (field name : String) :
    Except VariableFault (Option Datum) :=
  match naming.separator with
  | none => .ok none
  | some separator =>
    if given.any fun entry => entry.1.startsWith (name ++ separator.text) then
      if separator.divides then .ok (some (.object [])) else .error (.undivided field)
    else .ok none

def listFromText (field text : String) : Except VariableFault Datum :=
  (Data.Json.read text).mapError (.unreadable field)

/-- The value of a field from its variable. A list given as null is not set. -/
def Naming.fieldValue? (naming : Naming) (given : Variables) (field : String) :
    Except VariableFault (Option Datum) := do
  let name ← (naming.nameFor? field).mapError .option
  let found := (given.lookup name).join
  if !listFields.contains field then return found
  match found with
  | none => naming.parts? given field name
  | some (.text text) =>
    match ← listFromText field text with
    | .null => return none
    | .object members =>
      -- The parts go into the mapping, which stays one.
      let _ ← naming.parts? given field name
      return some (.object members)
    | value => return some value
  | some value => return some value

def Naming.fromVariables (naming : Naming) (given : Variables) :
    Except VariableFault (List (String × Datum)) := do
  let found ← fields.mapM fun field => do
    return (← naming.fieldValue? given field).map fun value => (field, value)
  return found.filterMap id

/-- Is a variable there for a field? What begins like the variable of a list may be for a part of
it. -/
def Naming.serves (naming : Naming) (given field : String) : Bool :=
  match naming.nameFor? field with
  | .ok name => given = name || (listFields.contains field && given.startsWith name)
  | .error _ => false

/-- Variables that have a value but set nothing, as further members. They are not left alone, because
nobody but these settings needs them. -/
def Naming.unusedVariables (naming : Naming) (given : Variables) : List (String × Datum) :=
  given.filterMap fun (name, value) =>
    match value with
    | none | some (.text "") => none
    | some meant =>
      if (naming.start ≠ some "" && fields.contains name) ||
          fields.any (naming.serves name) then none
      else some (name, meant)

end Bindery.Settings
