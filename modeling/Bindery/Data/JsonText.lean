import Bindery.Data.Json

/-!
# Writing JSON

The text of a value, with the same spellings of numbers that are not finite as the reader takes.
Characters outside ASCII stand for themselves.
-/
namespace Bindery.Data.Json

open Bindery.Number (Binary64)

def hexDigit (n : Nat) : Char := (Nat.digitChar (n % 16))

/-- Four hexadecimal digits. -/
def hexUnit (n : Nat) : List Char :=
  [hexDigit (n / 4096), hexDigit (n / 256), hexDigit (n / 16), hexDigit n]

/-- A character as it is written between quotation marks. -/
def writeChar (c : Char) : List Char :=
  if c = '"' then ['\\', '"']
  else if c = '\\' then ['\\', '\\']
  else if c = '\n' then ['\\', 'n']
  else if c = '\r' then ['\\', 'r']
  else if c = '\t' then ['\\', 't']
  else if c.toNat < 32 then '\\' :: 'u' :: hexUnit c.toNat
  else [c]

def writeText (s : String) : List Char := '"' :: s.toList.flatMap writeChar ++ ['"']

def writeFloat (x : Binary64) : List Char :=
  if x.isNaN then "NaN".toList
  else if x.isInfinite then (if x.isNegative then "-Infinity" else "Infinity").toList
  else x.text.toList

mutual

/-- The text of a value. Moments and bytes have none of their own and are written as texts. -/
def write : Datum → List Char
  | .null => "null".toList
  | .bool value => (if value then "true" else "false").toList
  | .int value => (toString value).toList
  | .float value => writeFloat value
  | .text value | .brokenText value => writeText value
  | .list items => '[' :: writeItems items ++ [']']
  | .object members => '\x7b' :: writeMembers members ++ ['\x7d']
  | .moment value => writeText value
  | .binary _ => writeText ""

def writeItems : List Datum → List Char
  | [] => []
  | [item] => write item
  | item :: rest => write item ++ ',' :: ' ' :: writeItems rest

def writeMembers : List (String × Datum) → List Char
  | [] => []
  | [(key, value)] => writeText key ++ ':' :: ' ' :: write value
  | (key, value) :: rest => writeText key ++ ':' :: ' ' :: write value ++ ',' :: ' ' :: writeMembers rest

end

end Bindery.Data.Json
