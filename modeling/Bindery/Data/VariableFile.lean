import Bindery.Data.Datum
import Bindery.Text.Blank

/-!
# Files of variables

Such a file has one assignment to a line: a name, an equality sign and a value, which may be in quotes
and then go on over several lines. A line that makes no sense is skipped. Values can refer to variables
that were set before.
-/
namespace Bindery.Data.VariableFile

/-- A name, and its value if it has one. -/
abbrev Assignment := String × Option String

/-- A reader gives what it read and what follows. One that fails gives the place where it stopped. -/
abbrev Reader (α : Type) := List Char → Except (List Char) (α × List Char)

def isInnerBlank (c : Char) : Bool := Text.isBlank c && c ≠ '\n'

def skipInnerBlanks (s : List Char) : List Char := s.dropWhile isInnerBlank

/-- A word before a name that means nothing. -/
def exportWord : List Char := "export".toList

def skipExport (s : List Char) : List Char :=
  let rest := s.drop exportWord.length
  if exportWord.isPrefixOf s && rest.head?.any isInnerBlank then skipInnerBlanks rest else s

/-- A name, in apostrophes or not. A comment stands in place of one. -/
def name : Reader (Option String) := fun s =>
  match s with
  | '#' :: _ => .ok (none, s)
  | '\'' :: rest =>
    match rest.takeWhile (· ≠ '\''), rest.dropWhile (· ≠ '\'') with
    | [], _ | _, [] => .error s
    | found, _ :: after => .ok (some (String.ofList found), after)
  | _ =>
    let isPart (c : Char) : Bool := c ≠ '=' && c ≠ '#' && !Text.isBlank c
    match s.takeWhile isPart with
    | [] => .error s
    | found => .ok (some (String.ofList found), s.dropWhile isPart)

/-! ## Values -/

/-- A value in quotes after the opening one: it ends at the first quote without a backslash before it,
or, if there is none, at the last one that has a backslash. `done` holds the characters before, last
one first, and `last` is the end if no better one is found. -/
def quotedText (mark : Char) (done : List Char) (last : Option (List Char × List Char)) :
    List Char → Option (List Char × List Char)
  | [] => last
  | c :: rest =>
    if c = mark then
      if done.head? = some '\\' then quotedText mark (c :: done) (some (done.reverse, rest)) rest
      else some (done.reverse, rest)
    else quotedText mark (c :: done) last rest

/-- What the letters after a backslash stand for, in values between quotation marks. -/
def escapes : List (Char × Char) := [
  ('\\', '\\'), ('\'', '\''), ('"', '"'), ('a', '\x07'), ('b', '\x08'), ('f', '\x0c'), ('n', '\n'),
  ('r', '\r'), ('t', '\t'), ('v', '\x0b')]

/-- Those between apostrophes. -/
def plainEscapes : List (Char × Char) := [('\\', '\\'), ('\'', '\'')]

/-- A text with its escapes replaced. `escaped` tells whether a backslash is before it. -/
def unescape (meanings : List (Char × Char)) (escaped : Bool) : List Char → List Char
  | [] => if escaped then ['\\'] else []
  | c :: rest =>
    if escaped then
      match meanings.lookup c with
      | some meant => meant :: unescape meanings false rest
      | none => '\\' :: unescape meanings false (c :: rest)
    else if c = '\\' then unescape meanings true rest
    else c :: unescape meanings false rest
  termination_by s => (s.length, if escaped then 1 else 0)

/-- A line up to a comment, which begins with a number sign after a blank. -/
def beforeComment (blank : Bool) : List Char → List Char
  | [] => []
  | c :: rest => if c = '#' && blank then [] else c :: beforeComment (Text.isBlank c) rest

def trimEnd (s : List Char) : List Char := (s.reverse.dropWhile Text.isBlank).reverse

def value : Reader String := fun s =>
  let quoted (mark : Char) (meanings : List (Char × Char)) (rest : List Char) :=
    match quotedText mark [] none rest with
    | some (text, after) => .ok (String.ofList (unescape meanings false text), after)
    | none => .error s
  match s with
  | '\'' :: rest => quoted '\'' plainEscapes rest
  | '"' :: rest => quoted '"' escapes rest
  | _ =>
    let line := s.takeWhile (· ≠ '\n')
    .ok (String.ofList (trimEnd (beforeComment false line)), s.drop line.length)

/-! ## Lines -/

/-- The end of a line after blanks and a comment. -/
def lineEnd : Reader Unit := fun s =>
  let afterBlanks := skipInnerBlanks s
  let rest := match afterBlanks with
    | '#' :: _ => afterBlanks.dropWhile (· ≠ '\n')
    | _ => afterBlanks
  match rest with
  | [] => .ok ((), [])
  | '\n' :: after => .ok ((), after)
  | _ => .error s

/-- An assignment, or nothing for a comment. -/
def assignment : Reader (Option Assignment) := fun s => do
  let (found, afterName) ← name (skipExport s)
  match skipInnerBlanks afterName with
  | '=' :: rest =>
    let (text, afterValue) ← value (skipInnerBlanks rest)
    let ((), after) ← lineEnd afterValue
    return (found.map fun name => (name, some text), after)
  | rest =>
    let ((), after) ← lineEnd rest
    return (found.map fun name => (name, none), after)

/-- The assignments of a text. Every round takes at least one character. -/
def assignmentsFrom : Nat → List Char → List Assignment
  | 0, _ => []
  | fuel + 1, s =>
    match s.dropWhile Text.isBlank with
    | [] => []
    | start =>
      match assignment start with
      | .ok (found, after) => found.toList ++ assignmentsFrom fuel after
      | .error stop => assignmentsFrom fuel ((stop.dropWhile (· ≠ '\n')).drop 1)

/-! ## References -/

/-- A reference to a variable, with what stands for one that is not set. -/
structure Reference where
  name : String
  absent : String := ""

def reference? (s : List Char) : Option (Reference × List Char) :=
  let isNamePart (c : Char) : Bool := c ≠ '\x7d' && c ≠ ':'
  let name := String.ofList (s.takeWhile isNamePart)
  match s.dropWhile isNamePart with
  | '\x7d' :: after => some (⟨name, ""⟩, after)
  | ':' :: '-' :: rest =>
    match rest.dropWhile (· ≠ '\x7d') with
    | _ :: after => some (⟨name, String.ofList (rest.takeWhile (· ≠ '\x7d'))⟩, after)
    | [] => none
  | _ => none

/-- A text with its references replaced by what `lookUp` says. -/
def expand (lookUp : Reference → String) : Nat → List Char → List Char
  | 0, s => s
  | _ + 1, [] => []
  | fuel + 1, c :: rest =>
    match c, rest with
    | '$', '\x7b' :: inner =>
      match reference? inner with
      | some (reference, after) => (lookUp reference).toList ++ expand lookUp fuel after
      | none => c :: expand lookUp fuel rest
    | _, _ => c :: expand lookUp fuel rest

/-- Set variables one after the other. References see the variables set before, and else those of the
environment. -/
def resolve (environment : List (String × String)) (assignments : List Assignment) :
    List Assignment :=
  assignments.foldl (fun earlier (name, text) =>
    let lookUp (reference : Reference) : String :=
      match earlier.lookup reference.name with
      | some found => found.getD ""
      | none => (environment.lookup reference.name).getD reference.absent
    insertMember earlier name (text.map fun value =>
      String.ofList (expand lookUp value.length value.toList))) []

/-- The variables that a text sets, each name once. -/
def read (environment : List (String × String)) (text : String) : List Assignment :=
  resolve environment (assignmentsFrom (text.length + 1) text.toList)

end Bindery.Data.VariableFile
