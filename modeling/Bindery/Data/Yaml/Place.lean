import Bindery.Text.CharTable

/-!
# Places in a YAML text

A place is what is left of the text, with the line and column it begins at.
-/
namespace Bindery.Data.Yaml

/-- Why a text is not read. -/
inductive Fault where
  /-- The text has a character that no document may have. -/
  | forbiddenCharacter
  /-- The text breaks the grammar. -/
  | malformed
  | undefinedAlias
  | repeatedAnchor
  /-- There is more than one document. -/
  | severalDocuments
  /-- No values are known for a tag. -/
  | unknownTag
  /-- A scalar is no value of its tag. -/
  | invalidScalar
  /-- A word is not among the named values of its tag. -/
  | unknownName (word : String)
  /-- A number has no text. -/
  | emptyNumber
  /-- A text does not have the form of a moment. -/
  | formlessMoment
  /-- A mapping stands where a moment is due. -/
  | mappedMoment
  /-- The code of a character has more bits than a code can have. -/
  | hugeCode
  /-- A number has more groups than a double can tell apart. -/
  | tooManyGroups
  /-- A list or a mapping is used as a key. -/
  | compoundKey
  /-- Nodes are nested too deeply, or without an end. -/
  | tooDeep
  deriving DecidableEq, Repr

def isBreak (c : Char) : Bool :=
  c = '\n' || c = '\r' || c = '\x85' || c = '\u2028' || c = '\u2029'

def isSpace (c : Char) : Bool := c = ' ' || c = '\t'

structure Place where
  rest : List Char
  line : Nat := 0
  column : Nat := 0
  /-- How many characters are before the place. -/
  index : Nat := 0
  deriving DecidableEq, Repr, Inhabited

namespace Place

def next (p : Place) : Place :=
  match p.rest with
  | [] => p
  | c :: rest =>
    if isBreak c && !(c = '\r' && rest.head? = some '\n') then ⟨rest, p.line + 1, 0, p.index + 1⟩
    else ⟨rest, p.line, if c = '\ufeff' then p.column else p.column + 1, p.index + 1⟩

def skip : Nat → Place → Place
  | 0, p => p
  | n + 1, p => skip n p.next

def peek (p : Place) (ahead : Nat) : Option Char := p.rest[ahead]?

/-- Characters that satisfy a test, and the place after them. -/
def takeWhile (test : Char → Bool) (p : Place) : List Char × Place :=
  let taken := p.rest.takeWhile test
  (taken, p.skip taken.length)

def skipWhile (test : Char → Bool) (p : Place) : Place := (p.takeWhile test).2

/-- A line break, normalised, and the place after it. -/
def takeBreak? (p : Place) : Option (Char × Place) :=
  match p.rest with
  | '\r' :: '\n' :: _ => some ('\n', p.next.next)
  | c :: _ =>
    if isBreak c then some (if c = '\u2028' || c = '\u2029' then c else '\n', p.next) else none
  | [] => none

/-- Is there, some characters further on, the end, a line break or, with `blanks`, a space? -/
def isGap (p : Place) (ahead : Nat) : Bool :=
  match p.peek ahead with
  | none => true
  | some c => isBreak c || isSpace c

/-- Is there the end, a space or a line break, but no tab? -/
def isStrictGap (p : Place) : Bool :=
  match p.peek 0 with
  | none => true
  | some c => isBreak c || c = ' '

/-- Three characters that stand alone at the start of a line. -/
def isMarker (marker : List Char) (p : Place) : Bool :=
  p.column = 0 && marker.isPrefixOf p.rest && p.isGap 3

def documentStart : List Char := ['-', '-', '-']

def documentEnd : List Char := ['.', '.', '.']

/-- Does a document begin or end here? -/
def isDocumentMarker (p : Place) : Bool := p.isMarker documentStart || p.isMarker documentEnd

/-- The place after spaces and a comment, which only a line break or the end may follow. -/
def skipRestOfLine (p : Place) : Except Fault Place :=
  let q := p.skipWhile (· = ' ')
  let r := if q.peek 0 = some '#' then q.skipWhile fun c => !isBreak c else q
  match r.takeBreak? with
  | some (_, after) => .ok after
  | none => if r.rest.isEmpty then .ok r else .error .malformed

end Place

def isAllowed (c : Char) : Bool :=
  let n := c.toNat
  n = 9 || n = 10 || n = 13 || (0x20 ≤ n && n ≤ 0x7e) || n = 0x85 || (0xa0 ≤ n && n ≤ 0xd7ff) ||
    (0xe000 ≤ n && n ≤ 0xfffd) || 0x10000 ≤ n

end Bindery.Data.Yaml
