import Bindery.Data.Datum
import Bindery.Text.Digit
import Bindery.Text.Identifier

/-!
# Path templates

A template such as `/v1/users/{userId}` holds placeholders: a brace, a name, possibly a constraint,
and a closing brace.
-/
namespace Bindery.Path

/-- A placeholder of a template: its name and its full text with the braces. -/
structure Placeholder where
  name : List Char
  text : List Char
  deriving DecidableEq, Repr

def isNameChar (c : Char) : Bool := Text.isWordChar c || c = '-'

/-- The placeholder that starts at an opening brace, if any, given what follows the brace: a name,
and then anything up to the next closing brace. -/
def placeholderAt? (rest : List Char) : Option Placeholder :=
  match rest.takeWhile isNameChar, rest.dropWhile (· ≠ '\x7d') with
  | c :: name, _ :: _ =>
    some ⟨c :: name, '\x7b' :: rest.takeWhile (· ≠ '\x7d') ++ ['\x7d']⟩
  | _, _ => none

/-- The placeholders of a template, from left to right. -/
def scan : List Char → List Placeholder
  | [] => []
  | c :: rest =>
    if c = '\x7b' then
      match placeholderAt? rest with
      -- Placeholders do not overlap: the search goes on behind the closing brace.
      | some found => found :: scan (rest.drop (found.text.length - 1))
      | none => scan rest
    else scan rest
  termination_by s => s.length
  decreasing_by all_goals (simp only [List.length_drop, List.length_cons]; omega)

/-- The text of each placeholder by its name. A repeated name keeps its first place and takes its
last text. -/
def placeholders (path : String) : List (String × String) :=
  (scan path.toList).foldl
    (fun found p => Data.insertMember found (String.ofList p.name) (String.ofList p.text)) []

/-- A segment such as `v1` or `v1.1`. A line break may end it. -/
def isVersionSegment : List Char → Bool
  | 'v' :: rest =>
    let body := if rest.getLast? = some '\n' then rest.dropLast else rest
    !body.isEmpty && body.all fun c => Text.isDecimalDigit c || c = '.'
  | _ => false

/-- A segment in braces, on one line. A line break may end it. -/
def isPlaceholderSegment : List Char → Bool
  | '\x7b' :: rest =>
    let body := if rest.getLast? = some '\n' then rest.dropLast else rest
    body.getLast? = some '\x7d' && !body.contains '\n'
  | _ => false

end Bindery.Path
