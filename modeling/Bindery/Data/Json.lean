import Bindery.Data.Datum
import Bindery.Text.CodePoint

/-!
# Reading JSON

A strict reader of JSON texts that also takes the three spellings of numbers that are not finite.
Numbers with a fraction or an exponent are doubles, the others integers of any size up to a limit
on their digits. Of members with the same key the last one counts, at the place of the first.

Half of a surrogate pair may stand alone in a string, be it written out or escaped. The string is no
text then, and a key with halves is different from the keys with other halves.
-/
namespace Bindery.Data.Json

open Bindery.Number (Binary64)
open Bindery.Text (CodePoint)

/-- Why a text is not read. -/
inductive Fault where
  | malformed
  /-- An integer with more than `digitLimit` digits. -/
  | hugeInteger
  /-- Lists and objects are nested too deeply. -/
  | tooDeep
  deriving DecidableEq, Repr

/-- The most digits that an integer may have. -/
def digitLimit : Nat := 4300

def isSpace : CodePoint → Bool
  | .char c => c = ' ' || c = '\n' || c = '\t' || c = '\r'
  | .half _ => false

def skipSpace (s : List CodePoint) : List CodePoint := s.dropWhile isSpace

def digitsValue (digits : List Char) : Nat :=
  digits.foldl (fun n c => 10 * n + (c.toNat - 48)) 0

/-- Four hexadecimal digits and what follows them. -/
def readUnit : List CodePoint → Option (Nat × List CodePoint)
  | .char a :: .char b :: .char c :: .char d :: rest =>
    if [a, b, c, d].all Text.isHexDigit then some (Text.hexNumber [a, b, c, d], rest) else none
  | _ => none

/-- The code point of a `\u` escape after its `u`. Two escapes that form a surrogate pair are one
character; any other surrogate is half of a pair that stands alone. -/
def readUnicodeEscape (s : List CodePoint) : Option (CodePoint × List CodePoint) := do
  let (unit, rest) ← readUnit s
  -- The first half of a pair counts only together with the second half.
  if 0xd800 ≤ unit ∧ unit < 0xdc00 then
    match rest with
    | .char '\\' :: .char 'u' :: more =>
      match readUnit more with
      | some (low, after) => if 0xdc00 ≤ low ∧ low < 0xe000 then return (.ofPair unit low, after)
      | none => pure ()
    | _ => pure ()
  return (.ofNat unit, rest)

def shortEscapes : List (Char × Char) := [
  ('"', '"'), ('\\', '\\'), ('/', '/'), ('b', '\x08'), ('f', '\x0c'), ('n', '\n'), ('r', '\r'),
  ('t', '\t')]

/-- The code point of an escape sequence after its backslash. -/
def readEscape : List CodePoint → Option (CodePoint × List CodePoint)
  | .char c :: rest =>
    if c = 'u' then readUnicodeEscape rest
    else (shortEscapes.lookup c).map fun meant => (.char meant, rest)
  | _ => none

/-- The rest of a string after its opening quote; `done` holds the code points read, last one first. -/
def readString : Nat → List CodePoint → List CodePoint → Option (List CodePoint × List CodePoint)
  | 0, _, _ => none
  | _ + 1, _, [] => none
  | fuel + 1, done, .half place :: rest => readString fuel (.half place :: done) rest
  | fuel + 1, done, .char c :: rest =>
    if c = '"' then some (done.reverse, rest)
    else if c = '\\' then
      match readEscape rest with
      | some (escaped, after) => readString fuel (escaped :: done) after
      | none => none
    else if c.toNat < 32 then none
    else readString fuel (.char c :: done) rest

/-- The value that a string stands for. -/
def textValue (points : List CodePoint) : Datum :=
  match Text.textOfPoints? points with
  | some text => .text text
  | none => .brokenText (Text.textOfPoints points)

/-- The digits after a point; without a digit there is no fraction. -/
def readFraction : List Char → List Char × List Char
  | '.' :: rest =>
    match rest.takeWhile Char.isDigit with
    | [] => ([], '.' :: rest)
    | digits => (digits, rest.dropWhile Char.isDigit)
  | rest => ([], rest)

/-- The exponent after an `e`; without a digit there is none. -/
def readExponent (s : List Char) : Option Int × List Char :=
  match s with
  | e :: rest =>
    if e = 'e' ∨ e = 'E' then
      let (negative, digitsOn) := match rest with
        | '-' :: more => (true, more)
        | '+' :: more => (false, more)
        | _ => (false, rest)
      match digitsOn.takeWhile Char.isDigit with
      | [] => (none, s)
      | digits =>
        let value : Int := digitsValue digits
        (some (if negative then -value else value), digitsOn.dropWhile Char.isDigit)
    else (none, s)
  | [] => (none, s)

/-- A number after its optional sign. -/
def readNumber (negative : Bool) (s : List Char) : Except Fault (Datum × List Char) :=
  match s.takeWhile Char.isDigit with
  | [] => .error .malformed
  | first :: more =>
    -- After a leading zero the number is over, whatever digits follow.
    let whole := if first = '0' then ['0'] else first :: more
    let rest := s.drop whole.length
    let (fraction, afterFraction) := readFraction rest
    let (exponent, after) := readExponent afterFraction
    if fraction.isEmpty && exponent.isNone then
      if digitLimit < whole.length then .error .hugeInteger
      else
        let value : Int := digitsValue whole
        .ok (.int (if negative then -value else value), after)
    else
      let scale : Int := exponent.getD 0 - fraction.length
      .ok (.float (Binary64.ofDecimal negative (digitsValue (whole ++ fraction)) scale), after)

/-- What follows a word that the text starts with. -/
def afterWord? (word : String) (s : List Char) : Option (List Char) :=
  if word.toList.isPrefixOf s then some (s.drop word.length) else none

def namedValues : List (String × Datum) :=
  [("null", .null), ("true", .bool true), ("false", .bool false), ("NaN", .float .nan),
    ("Infinity", .float (.infinity false)), ("-Infinity", .float (.infinity true))]

/-- A value that is neither a text, a list nor an object, at the start of some characters. -/
def readWord (s : List Char) : Except Fault (Datum × List Char) :=
  match namedValues.findSome? fun (word, value) => (afterWord? word s).map fun rest => (value, rest) with
  | some found => .ok found
  | none =>
    match s with
    | '-' :: rest => readNumber true rest
    | _ => readNumber false s

/-- A value that is neither a text, a list nor an object. -/
def readPlain (s : List CodePoint) : Except Fault (Datum × List CodePoint) := do
  -- No half of a pair belongs to such a value.
  let chars := (s.takeWhile (·.char?.isSome)).filterMap CodePoint.char?
  let (value, rest) ← readWord chars
  return (value, s.drop (chars.length - rest.length))

mutual

/-- A value and what follows it; `room` says how many more lists and objects may be nested. -/
def readValue (room : Nat) : Nat → List CodePoint → Except Fault (Datum × List CodePoint)
  | 0, _ => .error .malformed
  | fuel + 1, s =>
    match s with
    | .char '"' :: rest =>
      match readString (rest.length + 1) [] rest with
      | some (points, after) => .ok (textValue points, after)
      | none => .error .malformed
    | .char '[' :: rest =>
      if room = 0 then .error .tooDeep
      else match skipSpace rest with
        | .char ']' :: after => .ok (.list [], after)
        | start => do
          -- a list within uses up a level of the room, and a list beside it does not
          let (items, after) ← readItems (room - 1) fuel [] start
          return (.list items, after)
    | .char '\x7b' :: rest =>
      if room = 0 then .error .tooDeep
      else match skipSpace rest with
        | .char '\x7d' :: after => .ok (.object [], after)
        | start => do
          let (members, after) ← readMembers (room - 1) fuel [] start
          return (.object members, after)
    | _ => readPlain s

/-- The items of a list up to its bracket; `done` holds those read, last one first. -/
def readItems (room : Nat) : Nat → List Datum → List CodePoint →
    Except Fault (List Datum × List CodePoint)
  | 0, _, _ => .error .malformed
  | fuel + 1, done, s => do
    let (item, rest) ← readValue room fuel s
    match skipSpace rest with
    | .char ',' :: more => readItems room fuel (item :: done) (skipSpace more)
    | .char ']' :: after => return ((item :: done).reverse, after)
    | _ => .error .malformed

/-- The members of an object up to its brace. -/
def readMembers (room : Nat) : Nat → List (String × Datum) → List CodePoint →
    Except Fault (List (String × Datum) × List CodePoint)
  | 0, _, _ => .error .malformed
  | fuel + 1, done, s =>
    match s with
    | .char '"' :: rest =>
      match readString (rest.length + 1) [] rest with
      | none => .error .malformed
      | some (key, afterKey) =>
        match skipSpace afterKey with
        | .char ':' :: start => do
          let (value, afterValue) ← readValue room fuel (skipSpace start)
          -- a key that comes again keeps its place and takes the later value
          let members := insertMember done (Text.textOfPoints key) value
          match skipSpace afterValue with
          | .char ',' :: more => readMembers room fuel members (skipSpace more)
          | .char '\x7d' :: after => return (members, after)
          | _ => .error .malformed
        | _ => .error .malformed
    | _ => .error .malformed

end

def depthLimit : Nat := 985

/-- The value of code points whose lists and objects are nested no deeper than `room`. A byte order
mark is no part of one. -/
def readPoints (room : Nat) (points : List CodePoint) : Except Fault Datum := do
  let s := skipSpace points
  let (value, rest) ← readValue room (2 * s.length + 2) s
  if (skipSpace rest).isEmpty then return value else .error .malformed

def readWithin (room : Nat) (text : String) : Except Fault Datum := readPoints room (Text.pointsOf text)

def read (text : String) : Except Fault Datum := readWithin depthLimit text

end Bindery.Data.Json
