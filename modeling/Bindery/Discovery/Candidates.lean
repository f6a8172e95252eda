import Bindery.Discovery.Listing

/-!
# Candidates

The base URLs that all listing pages give together.
-/
namespace Bindery.Discovery

open Bindery.Network (Web)

/-- Merge lists of links: the first occurrence of a link decides its place, and excluded ones are
left out. -/
def merge (lists : List (List Link)) (excludes : List String) : List Link :=
  lists.flatten.eraseDups.filter fun link => !(excludes.map some).contains link

/-- Find the candidates on all pages, which are read at the same time and come to an end as `order`
says. -/
def discoverIn (order : List Nat) (web : Web) (listings : List Listing) (excludes : List String) :
    Run (List Link) := do
  let found ← Run.gatherIn order (listings.map fun listing => listing.fetchLinks web)
  let links := merge found excludes
  if links.isEmpty then .ofExcept (.error (.failure (.discovery (listings.map Listing.url))))
  else return links

def discover (web : Web) (listings : List Listing) (excludes : List String) : Run (List Link) :=
  discoverIn (List.range listings.length) web listings excludes

end Bindery.Discovery
