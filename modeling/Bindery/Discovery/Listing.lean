import Bindery.Network.Fetch
import Bindery.Pattern.Reader
import Bindery.Schema.Checked

/-!
# Listing pages

Pages on the web that list the base URLs of APIs, each with a search pattern that finds them.
-/
namespace Bindery.Discovery

open Bindery.Data (Datum)
open Bindery.Network (Web fetchText)
open Bindery.Schema (Checked)

/-- A page and how the base URLs on it are found. -/
structure Listing where
  url : String
  /-- A search pattern; its first group holds a base URL. -/
  pattern : String
  /-- Are `http:` links taken as `https:` ones? -/
  forceHttps : Bool := false
  deriving DecidableEq, Repr, Inhabited

/-- A base URL that was found; there is none where the group of the pattern took no part. -/
abbrev Link := Option String

def defaultListings : List Listing := [
  { url := "https://devforum.roblox.com/t/collected-list-of-apis/557091"
    pattern := "<li>\\s*<a href=\"(https?://[a-zA-Z\\-]+?\\.roblox\\.com)\">"
    forceHttps := true },
  { url := "https://github.com/AntiBoomz/BTRoblox/blob/master/README.md"
    pattern := "<a href=\"(https://[a-zA-Z\\-]+?\\.roblox\\.com)/docs\" rel=\"nofollow\">" }]

/-- Base URLs that are left out unless others are configured. -/
def defaultExcludes : List String := ["https://friendsite.roblox.com", "roblox.com"]

def readListing (value : Datum) : Checked Listing :=
  (Schema.readRecord value).andThen fun members =>
    Listing.mk <$> Schema.required "url" Schema.readText members
      <*> Schema.required "pattern" Schema.readText members
      <*> Schema.fieldOr ["force_https"] (.valid false) Schema.readBool members

def replaceFirst (old new : List Char) : List Char → List Char
  | [] => if old.isEmpty then new else []
  | c :: rest =>
    if old.isPrefixOf (c :: rest) then new ++ (c :: rest).drop old.length
    else c :: replaceFirst old new rest

/-- The secure form of a link. -/
def secure (link : String) : String :=
  String.ofList (replaceFirst "http:".toList "https:".toList link.toList)

/-- The links on a page by a pattern, in the order of the matches. -/
def linksBy (pattern : Pattern) (groups : Nat) (forceHttps : Bool) (page : String) :
    Except Interruption (List Link) :=
  let found := pattern.findAll page.toList
  if groups = 0 ∧ !found.isEmpty then .error .missingGroup
  else
    let links := found.map fun place => (place.group? 1).map String.ofList
    if forceHttps then
      if links.contains none then .error .emptyGroup
      else .ok (links.map (Option.map secure))
    else .ok links

def Listing.links (listing : Listing) (page : String) : Except Interruption (List Link) :=
  match Pattern.read listing.pattern with
  | .error fault => .error (.invalidPattern fault)
  | .ok (pattern, groups) => linksBy pattern groups listing.forceHttps page

/-- Read a listing page; one that is not available has no links. -/
def Listing.fetchLinks (listing : Listing) (web : Web) : Run (List Link) :=
  match fetchText web listing.url with
  | .ok page => .ofExcept (listing.links page)
  | .error (.interrupted cause) => .ofExcept (.error cause)
  | .error (.unavailable fault) => do
    Run.note (.unavailableSource listing.url (fault.failure listing.url).message)
    return []

end Bindery.Discovery
