import Bindery.Discovery.Listing
import Bindery.Name.Api
import Bindery.Schema.Document

/-!
# The catalogue of available APIs

Each candidate is asked for its metadata. Those with usable metadata are listed by name, and of two
with the same name the first one counts.
-/
namespace Bindery.Discovery

open Bindery.Data (Datum insertMember)
open Bindery.Network (Web fetchJson available?)
open Bindery.Schema (Metadata readMetadata)

/-- What is known of the APIs that answered. -/
structure Catalogue where
  /-- The APIs by name, in the order of the candidates. -/
  apis : List (String × Metadata) := []
  /-- How many candidates have usable metadata. -/
  available : Nat := 0
  deriving Repr, Inhabited

def metadataAddress (link : Link) : String := link.getD Datum.null.display ++ "/docs/metadata"

/-- Metadata as a record of an API; name and URL are not taken from the document. -/
def identify? (url : String) (document : Datum) : Option Metadata := do
  let identifier ← Name.api? url
  let members ← document.members?
  let named := insertMember (insertMember members "identifier" (.text identifier)) "url" (.text url)
  (readMetadata (.object named)).toOption

def fetchMetadata (web : Web) (link : Link) : Run (Option Metadata) := .ofExcept <|
  match available? (fetchJson web (metadataAddress link)), link with
  | .error cause, _ => .error cause
  | .ok none, _ => .ok none
  | .ok (some document), some url => .ok (identify? url document)
  | .ok (some _), none => .error .missingAddress

/-- List the usable answers. -/
def Catalogue.ofAnswers (answers : List (Option Metadata)) : Catalogue :=
  let usable := answers.filterMap id
  let add (apis : List (String × Metadata)) (metadata : Metadata) :=
    if (apis.lookup metadata.identifier).isSome then apis
    else apis ++ [(metadata.identifier, metadata)]
  { apis := usable.foldl add [], available := usable.length }

/-- Ask all candidates at the same time; the answers arrive as `order` says. -/
def catalogueIn (order : List Nat) (web : Web) (links : List Link) : Run Catalogue := do
  let answers ← Run.gatherIn order (links.map (fetchMetadata web))
  return .ofAnswers answers

def catalogue (web : Web) (links : List Link) : Run Catalogue :=
  catalogueIn (List.range links.length) web links

end Bindery.Discovery
