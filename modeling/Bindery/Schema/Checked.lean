import Bindery.Data.Datum
import Bindery.Data.NumberText

/-!
# Checked readings of document values

Reading a value into a field either succeeds or gives all faults found, in the order of the fields.
A fault has a kind and the way to it through keys and positions.
-/
namespace Bindery.Schema

open Bindery.Data (Datum joinGroups plainFloat trimPadding)
open Bindery.Number (Binary64)

/-- What is wrong with a value. -/
inductive FaultKind where
  | missing
  | notText
  | notUnicode
  | notList
  | notMapping
  | notRecord
  | unreadableBool
  | notBool
  | unreadableInt
  | oversizedInt
  | fractionalInt
  | notInt
  | notFinite
  | unreadableFloat
  | notFloat
  | notGreater
  | unknownField
  /-- A value is nested too deeply. -/
  | tooDeep
  deriving DecidableEq, Repr

/-- One step on the way to a fault. -/
inductive Step where
  | key (name : String)
  | index (position : Nat)
  deriving DecidableEq, Repr

structure Fault where
  kind : FaultKind
  path : List Step
  deriving DecidableEq, Repr

/-- A reading: a value, or its faults. -/
inductive Checked (α : Type) where
  | valid (value : α)
  | invalid (faults : List Fault)
  deriving Repr

namespace Checked

variable {α β : Type}

def fail (kind : FaultKind) : Checked α := invalid [⟨kind, []⟩]

def map (f : α → β) : Checked α → Checked β
  | valid value => valid (f value)
  | invalid faults => invalid faults

/-- Both readings; the faults of both are kept, in order. -/
def apply (f : Checked (α → β)) (x : Checked α) : Checked β :=
  match f, x with
  | valid g, valid value => valid (g value)
  | invalid faults, valid _ => invalid faults
  | valid _, invalid faults => invalid faults
  | invalid first, invalid second => invalid (first ++ second)

instance : Applicative Checked where
  pure := valid
  seq f x := apply f (x ())

/-- Continue with a value that was read. -/
def andThen (x : Checked α) (f : α → Checked β) : Checked β :=
  match x with
  | valid value => f value
  | invalid faults => invalid faults

/-- Put a step in front of the way to each fault. -/
def within (step : Step) : Checked α → Checked α
  | valid value => valid value
  | invalid faults => invalid (faults.map fun fault => { fault with path := step :: fault.path })

def toOption : Checked α → Option α
  | valid value => some value
  | invalid _ => none

def toExcept : Checked α → Except (List Fault) α
  | valid value => .ok value
  | invalid faults => .error faults

end Checked

/-! ## Single values -/

def textOfBytes? (bytes : List UInt8) : Option String := String.fromUTF8? ⟨bytes.toArray⟩

/-- Read raw bytes as a text of a value; bytes that are no text are a fault of the value. -/
def ofBytes {α : Type} (read : List Char → Checked α) (fault : FaultKind) (bytes : List UInt8) :
    Checked α :=
  match textOfBytes? bytes with
  | some value => read value.toList
  | none => .fail fault

/-- A text; raw bytes are read as one. -/
def readText : Datum → Checked String
  | .text value => .valid value
  | .brokenText _ => .fail .notUnicode
  | .binary bytes => ofBytes (fun s => .valid (String.ofList s)) .notUnicode bytes
  | _ => .fail .notText

def readList : Datum → Checked (List Datum)
  | .list items => .valid items
  | _ => .fail .notList

def readMapping : Datum → Checked (List (String × Datum))
  | .object members => .valid members
  | _ => .fail .notMapping

def readRecord : Datum → Checked (List (String × Datum))
  | .object members => .valid members
  | _ => .fail .notRecord

def yesWords : List String := ["1", "on", "t", "true", "y", "yes"]

def noWords : List String := ["0", "off", "f", "false", "n", "no"]

/-- A truth value given by a word; case makes no difference. -/
def boolOfText (s : List Char) : Checked Bool :=
  let word := String.ofList (s.map Char.toLower)
  if yesWords.contains word then .valid true
  else if noWords.contains word then .valid false
  else .fail .unreadableBool

/-- Two to the power of 63: half of what a machine word can tell apart. -/
def wordBound : Int := 0x8000000000000000

/-- The integers of a machine word. -/
def isWordSized (n : Int) : Bool := -wordBound ≤ n && n < wordBound

/-- The integer that a number is, if it has no fraction and is strictly inside the range of a machine
word. -/
def intOfFloat (x : Binary64) : Checked Int :=
  if x.isNaN || x.isInfinite then .fail .notFinite
  else match x.toInt? with
    | some n => if isWordSized n ∧ n ≠ -wordBound then .valid n else .fail .oversizedInt
    | none => .fail .fractionalInt

/-- A truth value: also a word for one, or a number that is zero or one. -/
def readBool : Datum → Checked Bool
  | .bool value => .valid value
  | .text s => boolOfText s.toList
  | .brokenText _ => .fail .notUnicode
  | .binary bytes => ofBytes boolOfText .unreadableBool bytes
  | .int n =>
    if n = 0 then .valid false
    else if n = 1 then .valid true
    else if isWordSized n then .fail .unreadableBool
    else .fail .notBool
  | .float x =>
    match intOfFloat x with
    | .valid n => if n = 0 then .valid false else if n = 1 then .valid true else .fail .unreadableBool
    | .invalid _ => .fail .notBool
  | _ => .fail .notBool

/-- Leave out zeros that come first, but the last of a row of zeros. A sign may follow the zeros. -/
def dropLeadingZeros (s : List Char) : Option (List Char) :=
  match s with
  | '0' :: rest => skip '0' rest
  | c :: _ => if ('1' ≤ c ∧ c ≤ '9') ∨ c = '-' then some s else none
  | [] => none
where
  /-- `last` is the character before the rest. -/
  skip (last : Char) : List Char → Option (List Char)
    | [] => some [last]
    | c :: rest =>
      if c = '0' ∨ c = '_' then skip c rest
      else if ('1' ≤ c ∧ c ≤ '9') ∨ c = '-' then some (c :: rest)
      else if c = '.' then some (last :: c :: rest)
      else none

/-- The text before a point that zeros and nothing else follow. -/
def dropZeroFraction (s : List Char) : List Char :=
  match s.dropWhile (· ≠ '.') with
  | '.' :: zeros =>
    if !zeros.isEmpty && zeros.all (· = '0') then s.takeWhile (· ≠ '.') else s
  | _ => s

/-- The sign and the digits of an integer, without what may stand around and between them. -/
def integerParts? (s : List Char) : Option (Bool × List Char) := do
  let body := trimPadding s
  let unsigned ← match body with
    | '+' :: '-' :: _ => none
    | '+' :: rest => some rest
    | _ => some body
  match dropZeroFraction (← dropLeadingZeros unsigned) with
  | '-' :: digits => return (true, ← joinGroups digits)
  | digits => return (false, ← joinGroups digits)

/-- The most characters that the sign and the digits of an integer may have. -/
def integerLimit : Nat := 4300

def intOfText (s : List Char) : Checked Int :=
  match integerParts? s with
  | none => .fail .unreadableInt
  | some (negative, digits) =>
    let length := digits.length + if negative then 1 else 0
    if integerLimit < length then .fail .oversizedInt
    else if digits.isEmpty || !digits.all Char.isDigit then .fail .unreadableInt
    else
      let value : Int := Data.Json.digitsValue digits
      .valid (if negative then -value else value)

/-- An integer: also a truth value, a number without a fraction, or a text of one. -/
def readInt : Datum → Checked Int
  | .int n => .valid n
  | .bool value => .valid (if value then 1 else 0)
  | .float x => intOfFloat x
  | .text s => intOfText s.toList
  | .brokenText _ => .fail .notUnicode
  | .binary bytes => ofBytes intOfText .unreadableInt bytes
  | _ => .fail .notInt

def floatOfText (s : List Char) : Checked Binary64 :=
  match plainFloat (trimPadding s) with
  | some value => .valid value
  | none =>
    match if s.contains '_' then (joinGroups s).bind plainFloat else none with
    | some value => .valid value
    | none => .fail .unreadableFloat

/-- A number: also a truth value, or a text of one. -/
def readFloat : Datum → Checked Binary64
  | .float x => .valid x
  | .int n =>
    let x := Binary64.ofInt n
    if x.isInfinite then .fail .notFloat else .valid x
  | .bool value => .valid (.ofInt (if value then 1 else 0))
  | .text s => floatOfText s.toList
  | .brokenText _ => .fail .notUnicode
  | .binary bytes => ofBytes floatOfText .unreadableFloat bytes
  | _ => .fail .notFloat

/-! ## Fields of records -/

/-- The first of some keys that a record has, with its value. -/
def findField (keys : List String) (members : List (String × Datum)) : Option (String × Datum) :=
  keys.findSome? fun key => (members.lookup key).map fun value => (key, value)

/-- Read a field that may be absent, under any of its keys. -/
def fieldOr {α : Type} (keys : List String) (absent : Checked α) (read : Datum → Checked α)
    (members : List (String × Datum)) : Checked α :=
  match findField keys members with
  | some (key, value) => (read value).within (.key key)
  | none => absent

def required {α : Type} (key : String) (read : Datum → Checked α)
    (members : List (String × Datum)) : Checked α :=
  fieldOr [key] ((Checked.fail .missing).within (.key key)) read members

/-- A reading that takes null for nothing. -/
def orNull {α : Type} (read : Datum → Checked α) : Datum → Checked (Option α)
  | .null => .valid none
  | value => (read value).map some

def eachItem {α : Type} (read : Datum → Checked α) (items : List Datum) : Checked (List α) :=
  go 0 items
where
  go (position : Nat) : List Datum → Checked (List α)
    | [] => .valid []
    | item :: rest =>
      List.cons <$> (read item).within (.index position) <*> go (position + 1) rest

def eachMember {α : Type} (read : Datum → Checked α) :
    List (String × Datum) → Checked (List (String × α))
  | [] => .valid []
  | (key, value) :: rest =>
    (fun first others => (key, first) :: others) <$> (read value).within (.key key) <*>
      eachMember read rest

end Bindery.Schema
