import Bindery.Text.Decompose
import Bindery.Text.Identifier
import Bindery.Text.LetterCase

/-!
# Identifiers of the generated package

Documented names are free text. An argument or method name keeps the letters, digits and underscores
that are left after accents are removed, and is kept apart from numbers and from the keywords of the
generated language, Python.
-/
namespace Bindery.Name

open Bindery.Text (isWordChar removeAccents titleList)

/-- The keywords of the generated language. -/
def keywords : List String :=
  ["False", "None", "True", "and", "as", "assert", "async", "await", "break", "class", "continue",
    "def", "del", "elif", "else", "except", "finally", "for", "from", "global", "if", "import",
    "in", "is", "lambda", "nonlocal", "not", "or", "pass", "raise", "return", "try", "while",
    "with", "yield"]

def isKeyword (name : String) : Bool := keywords.contains name

/-- A name that is no keyword: keywords get an underscore. -/
def avoidKeyword (name : String) : String := if isKeyword name then name ++ "_" else name

/-- The characters of a text that may stand in an identifier, accents removed; what would start
with a digit starts with an underscore. -/
def identifierChars (s : List Char) : List Char :=
  let kept := (s.flatMap Text.baseChars).filter isWordChar
  match kept with
  | [] => []
  | c :: _ => if c.isDigit then '_' :: kept else kept

/-- The pieces of a text between the characters that `isBreak` holds of. -/
def splitOnAny (isBreak : Char → Bool) : List Char → List (List Char)
  | [] => [[]]
  | c :: rest =>
    if isBreak c then [] :: splitOnAny isBreak rest
    else match splitOnAny isBreak rest with
      | [] => [[c]]
      | piece :: others => (c :: piece) :: others

/-- The first part as it is, and the parts after a hyphen or a dot with a capital letter each. -/
def joinParts (name : List Char) : List Char :=
  match splitOnAny (fun c => c = '-' || c = '.') name with
  | [] => []
  | first :: others => first ++ others.flatMap titleList

/-- The argument name of a documented parameter. -/
def argument (name : String) : String :=
  match identifierChars (joinParts name.toList) with
  | [] => "param"
  | chars => avoidKeyword (String.ofList chars)

/-- A derived method name as an identifier, or nothing if no character is left. -/
def member (name : String) : String :=
  avoidKeyword (String.ofList (identifierChars name.toList))

end Bindery.Name
