import Bindery.Name.Identifier
import Bindery.Path.Template

/-!
# Method names

A method is named after the segments of its path: `/v1/users/authenticated` of the API `Users` is
`Authenticated`.
-/
namespace Bindery.Name

/-- The segments that name something: versions and placeholders are left out. -/
def namingSegments (path : List Char) : List (List Char) :=
  (splitOnAny (fun c => c = '-' || c = '/') path).filter fun segment =>
    !segment.isEmpty && !Path.isVersionSegment segment && !Path.isPlaceholderSegment segment

/-- Drop a first segment that names the API itself when others remain. -/
def dropApiSegment (api : List Char) : List (List Char) → List (List Char)
  | first :: second :: others =>
    if Text.containsIgnoringCase first api then second :: others else first :: second :: others
  | segments => segments

/-- The method name derived from a path template; it may be empty or no identifier yet. -/
def method (api path : String) : String :=
  String.ofList ((dropApiSegment api.toList (namingSegments path.toList)).flatMap Text.titleList)

end Bindery.Name
