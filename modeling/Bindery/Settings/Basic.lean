import Bindery.Discovery.Listing
import Bindery.Package.Emission

/-!
# Settings

What a run can be told. Settings are read field by field; unknown fields are faults.
-/
namespace Bindery

open Bindery.Data (Datum)
open Bindery.Discovery (Listing defaultExcludes defaultListings readListing)
open Bindery.Number (Binary64)
open Bindery.Schema (Checked)

structure Settings where
  /-- The directory of the package. -/
  output : String := "./roblox_api"
  /-- How many requests may be under way at once. -/
  maxConcurrentRequests : Int := 30
  /-- Seconds to wait for an answer. -/
  timeout : Binary64 := .ofInt 30
  listings : List Listing := defaultListings
  /-- Base URLs that are never generated. -/
  excludes : List String := defaultExcludes
  /-- Are modules laid out anew before they are written? -/
  formatCode : Bool := true
  /-- The year for the header of modules, if it is set. -/
  year : Option Int := none
  deriving Inhabited, Repr

namespace Settings

open Bindery.Schema

/-- The fields, in the order in which they are checked. -/
def fields : List String :=
  ["output", "max_concurrent_requests", "timeout", "sources", "excludes", "format_code", "year"]

def listFields : List String := ["sources", "excludes"]

def readPositiveInt (value : Datum) : Checked Int :=
  (readInt value).andThen fun n => if 0 < n then .valid n else .fail .notGreater

def readPositiveFloat (value : Datum) : Checked Binary64 :=
  (readFloat value).andThen fun x => if x.isPositive then .valid x else .fail .notGreater

def readListOf {α : Type} (read : Datum → Checked α) (value : Datum) : Checked (List α) :=
  (readList value).andThen (eachItem read)

/-- Unknown fields are faults, in the order of the document. -/
def checkUnknown (members : List (String × Datum)) : Checked Unit :=
  match members.filter fun member => !fields.contains member.1 with
  | [] => .valid ()
  | unknown => .invalid (unknown.map fun member => ⟨.unknownField, [.key member.1]⟩)

/-- Settings with what some members say, and defaults for the rest. -/
def read (members : List (String × Datum)) : Checked Settings :=
  (fun output cap timeout listings excludes formatCode year (_ : Unit) =>
    Settings.mk output cap timeout listings excludes formatCode year) <$>
    fieldOr ["output"] (.valid ({} : Settings).output) readText members
    <*> fieldOr ["max_concurrent_requests"] (.valid ({} : Settings).maxConcurrentRequests)
      readPositiveInt members
    <*> fieldOr ["timeout"] (.valid ({} : Settings).timeout) readPositiveFloat members
    <*> fieldOr ["sources"] (.valid defaultListings) (readListOf readListing) members
    <*> fieldOr ["excludes"] (.valid defaultExcludes) (readListOf readText) members
    <*> fieldOr ["format_code"] (.valid true) readBool members
    <*> fieldOr ["year"] (.valid none) (fun value => (readInt value).map some) members
    <*> checkUnknown members

/-- How the package is written. -/
def emission (settings : Settings) : EmissionSettings :=
  { output := .ofText settings.output, year := settings.year }

end Settings

end Bindery
