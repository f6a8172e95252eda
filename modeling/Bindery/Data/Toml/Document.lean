import Bindery.Data.Toml.Scalar
import Bindery.Data.Toml.Table

/-!
# TOML documents

A document is a list of lines: headers of tables, keys with values, and comments.
-/
namespace Bindery.Data.Toml

/-- What follows a comment, if there is one. -/
def skipComment (s : List Char) : Except Fault (List Char) :=
  match s with
  | '#' :: rest =>
    if (rest.takeWhile (· ≠ '\n')).any isIllegal then .error .malformed
    else .ok (rest.dropWhile (· ≠ '\n'))
  | _ => .ok s

/-- What follows blanks, line breaks and comments. -/
def skipLines : Nat → List Char → Except Fault (List Char)
  | 0, s => .ok s
  | fuel + 1, s => do
    let t := skipBlankLines s
    match t with
    | '#' :: _ => skipLines fuel (← skipComment t)
    | _ => return t

def isBareChar (c : Char) : Bool := c.isAlphanum || c = '-' || c = '_'

def keyPart (s : List Char) : Except Fault (String × List Char) :=
  match s with
  | '"' :: rest => do
    let (text, after) ← lineText '"' rest
    return (String.ofList text, after)
  | '\'' :: rest => do
    let (text, after) ← lineText '\'' rest
    return (String.ofList text, after)
  | _ =>
    match s.takeWhile isBareChar with
    | [] => .error .malformed
    | name => .ok (String.ofList name, s.dropWhile isBareChar)

/-- A key, and what follows the blanks after it. -/
def keyPath : Nat → List Char → Except Fault (Key × List Char)
  | 0, _ => .error .malformed
  | fuel + 1, s => do
    let (part, after) ← keyPart s
    match skipBlanks after with
    | '.' :: rest => do
      let (more, finish) ← keyPath fuel (skipBlanks rest)
      return (part :: more, finish)
    | finish => return ([part], finish)

def key (s : List Char) : Except Fault (Key × List Char) := keyPath (s.length + 1) s

/-- What lists and tables that are nested may cost together. -/
def depthLimit : Nat := 984

/-- What one more list around a value costs. -/
def listCost : Nat := 2

/-- What one more table written in place costs. -/
def tableCost : Nat := 3

mutual

/-- A value; `room` says what the lists and tables in it may cost. -/
def value (room : Nat) : Nat → Reader Datum
  | 0, _ => .error .malformed
  | fuel + 1, s =>
    match s with
    -- three quotes before one, since two of the three would read as an empty line of text
    | '"' :: '"' :: '"' :: rest => do
      let (text, after) ← linesText '"' rest
      return (.text (String.ofList text), after)
    | '"' :: rest => do
      let (text, after) ← lineText '"' rest
      return (.text (String.ofList text), after)
    | '\'' :: '\'' :: '\'' :: rest => do
      let (text, after) ← linesText '\'' rest
      return (.text (String.ofList text), after)
    | '\'' :: rest => do
      let (text, after) ← lineText '\'' rest
      return (.text (String.ofList text), after)
    | 't' :: 'r' :: 'u' :: 'e' :: rest => .ok (.bool true, rest)
    | 'f' :: 'a' :: 'l' :: 's' :: 'e' :: rest => .ok (.bool false, rest)
    | '[' :: rest =>
      if room < listCost then .error .tooDeep
      else do
        let (items, after) ← listItems (room - listCost) fuel rest
        return (.list items, after)
    | '\x7b' :: rest =>
      if room < tableCost then .error .tooDeep
      else match skipBlanks rest with
        | '\x7d' :: after => .ok (.object [], after)
        | start => inlinePairs (room - tableCost) fuel {} start
    | _ => plainScalar s

/-- The items of a list after its bracket or a comma. -/
def listItems (room : Nat) : Nat → Reader (List Datum)
  | 0, _ => .error .malformed
  | fuel + 1, s => do
    match ← skipLines (s.length + 1) s with
    | ']' :: after => return ([], after)
    | start =>
      let (item, rest) ← value room fuel start
      match ← skipLines (rest.length + 1) rest with
      | ']' :: after => return ([item], after)
      | ',' :: more => do
        let (items, after) ← listItems room fuel more
        return (item :: items, after)
      | _ => throw .malformed

def pair (room : Nat) : Nat → Reader (Key × Datum)
  | 0, _ => .error .malformed
  | fuel + 1, s => do
    let (name, rest) ← key s
    match rest with
    | '=' :: more => do
      let (found, after) ← value room fuel (skipBlanks more)
      return ((name, found), after)
    | _ => throw .malformed

/-- The pairs of a table written in place. -/
def inlinePairs (room : Nat) : Nat → Draft → Reader Datum
  | 0, _, _ => .error .malformed
  | fuel + 1, draft, s => do
    let ((name, found), rest) ← pair room fuel s
    match draft.assignInline name found with
    | none => throw .malformed
    | some next =>
      match skipBlanks rest with
      | '\x7d' :: after => return (.object next.members, after)
      | ',' :: more => inlinePairs room fuel next (skipBlanks more)
      | _ => throw .malformed

end

/-- The header of a table or of an item of a list of tables. -/
def header (draft : Draft) : Reader (Draft × Key) := fun s => do
  match s with
  | '[' :: '[' :: rest =>
    let (name, after) ← key (skipBlanks rest)
    match draft.endSection.openItem name, after with
    | some next, ']' :: ']' :: finish => return ((next, name), finish)
    | _, _ => throw .malformed
  | '[' :: rest =>
    let (name, after) ← key (skipBlanks rest)
    match draft.endSection.openTable name, after with
    | some next, ']' :: finish => return ((next, name), finish)
    | _, _ => throw .malformed
  | _ => throw .malformed

/-- One line, without the line break at its end: the document after it, and the table it is about. -/
def line (draft : Draft) (about : Key) : Reader (Draft × Key) := fun s => do
  match s with
  | [] | '\n' :: _ | '#' :: _ => return ((draft, about), s)
  | '[' :: _ => header draft s
  | _ =>
    let ((name, found), rest) ← pair depthLimit (2 * s.length + 2) s
    match draft.assign about name found with
    | some next => return ((next, about), rest)
    | none => throw .malformed

def lines : Nat → Draft → Key → List Char → Except Fault Draft
  | 0, _, _, _ => .error .malformed
  | fuel + 1, draft, about, s => do
    let ((next, now), rest) ← line draft about (skipBlanks s)
    match ← skipComment (skipBlanks rest) with
    | [] => return next
    | '\n' :: more => lines fuel next now more
    | _ => throw .malformed

def read (text : String) : Except Fault (List (String × Datum)) := do
  let s := text.toList
  return (← lines (s.length + 1) {} [] s).members

end Bindery.Data.Toml
