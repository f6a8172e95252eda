import Bindery.Number.FloatText
import Bindery.Text.Quoted

/-!
# Document values

The values that documents hold, whatever format they are read from. Objects keep their members in
document order, each key once; a key with half of a surrogate pair is written like such a text.
-/
namespace Bindery.Data

open Bindery.Number (Binary64)

/-- A value of a document. Dates, times and raw bytes occur in some formats only. -/
inductive Datum where
  | null
  | bool (value : Bool)
  | int (value : Int)
  | float (value : Binary64)
  | text (value : String)
  /-- A text that no sequence of characters is, because half of a surrogate pair stands alone in it;
  each such half has a private character in its place. -/
  | brokenText (value : String)
  | list (items : List Datum)
  | object (members : List (String × Datum))
  | moment (value : String)
  | binary (value : List UInt8)
  deriving Inhabited, Repr

namespace Datum

/-- Empty texts, lists and objects, zeros, false and null carry nothing. -/
def isVoid : Datum → Bool
  | null => true
  | bool value => !value
  | int value => value = 0
  | float value => value.isZero
  | text value => value.isEmpty
  | brokenText _ => false
  | list items => items.isEmpty
  | object members => members.isEmpty
  | moment _ => false
  | binary value => value.isEmpty

/-- What a date, a time or both are called. -/
def momentKind (moment : String) : String :=
  let signs := moment.toList
  if !signs.contains ':' then "datetime.date"
  else if signs[4]? = some '-' then "datetime.datetime"
  else "datetime.time"

/-- What a value is called. -/
def kindName : Datum → String
  | null => "NoneType"
  | bool _ => "bool"
  | int _ => "int"
  | float _ => "float"
  | text _ | brokenText _ => "str"
  | list _ => "list"
  | object _ => "dict"
  | moment value => momentKind value
  | binary _ => "bytes"

def members? : Datum → Option (List (String × Datum))
  | object members => some members
  | _ => none

def get? (value : Datum) (key : String) : Option Datum :=
  match value with
  | object members => members.lookup key
  | _ => none

def text? : Datum → Option String
  | text value | brokenText value => some value
  | _ => none

end Datum

/-- Set the value of a key: a new key goes to the end, an old one keeps its place. -/
def insertMember {α : Type} (members : List (String × α)) (key : String) (value : α) :
    List (String × α) :=
  match members with
  | [] => [(key, value)]
  | (k, v) :: rest => if k = key then (k, value) :: rest else (k, v) :: insertMember rest key value

namespace Datum

mutual

/-- The written form of a value inside another one: texts are quoted. -/
def written : Datum → List Char
  | null => "None".toList
  | bool value => (if value then "True" else "False").toList
  | int value => (toString value).toList
  | float value => value.text.toList
  | text value | brokenText value => (Text.literal value).toList
  | list items => '[' :: writtenItems items ++ [']']
  | object members => '\x7b' :: writtenMembers members ++ ['\x7d']
  | moment value => value.toList
  | binary _ => []

def writtenItems : List Datum → List Char
  | [] => []
  | [item] => item.written
  | item :: rest => item.written ++ ',' :: ' ' :: writtenItems rest

def writtenMembers : List (String × Datum) → List Char
  | [] => []
  | [(key, value)] => (Text.literal key).toList ++ ':' :: ' ' :: value.written
  | (key, value) :: rest =>
    (Text.literal key).toList ++ ':' :: ' ' :: value.written ++ ',' :: ' ' :: writtenMembers rest

end

/-- The written form of a value on its own: a text stands for itself. -/
def display : Datum → String
  | text value | brokenText value => value
  | value => String.ofList value.written

end Datum

end Bindery.Data
