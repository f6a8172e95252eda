import Bindery.Name.Identifier

/-!
# API names

An API is named after the first label of its host: one at `game-passes.roblox.com` is `GamePasses`.
-/
namespace Bindery.Name

def isLabelChar (c : Char) : Bool := c.isAlpha || c = '-'

/-- The first stretch of letters and hyphens between a slash and a dot. -/
def hostLabel? : List Char → Option (List Char)
  | [] => none
  | c :: rest =>
    if c = '/' then
      match rest.takeWhile isLabelChar, rest.dropWhile isLabelChar with
      | l :: label, '.' :: _ => some (l :: label)
      | _, _ => hostLabel? rest
    else hostLabel? rest

/-- The parts of a label between hyphens, each with a capital letter. -/
def labelName (label : List Char) : List Char :=
  (splitOnAny (· = '-') label).flatMap Text.titleList

/-- The name of the API at a base URL, if its host has a usable label. -/
def api? (url : String) : Option String :=
  match (hostLabel? url.toList).map labelName with
  | none | some [] => none
  | some name => some (String.ofList name)

end Bindery.Name
