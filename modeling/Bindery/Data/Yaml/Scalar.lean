import Bindery.Data.Calendar
import Bindery.Data.NumberText
import Bindery.Data.Yaml.Place
import Bindery.Pattern.Reader
import Bindery.Text.Charset

/-!
# The values of YAML scalars

A plain scalar without a tag is what its text looks like: a truth value, a number, nothing, a moment
or else a text.
-/
namespace Bindery.Data.Yaml

open Bindery.Number (Binary64)

/-- What a tag stands for. -/
inductive Kind where
  | null
  | bool
  | int
  | float
  | binary
  | moment
  | text
  | list
  | mapping
  | orderedPairs
  | pairs
  | set
  /-- The key that merges other mappings. -/
  | merge
  /-- The key of the value that stands for a mapping. -/
  | value
  | unknown
  deriving DecidableEq, Repr

def kinds : List (String × Kind) := [
  ("null", .null), ("bool", .bool), ("int", .int), ("float", .float), ("binary", .binary),
  ("timestamp", .moment), ("str", .text), ("seq", .list), ("map", .mapping),
  ("omap", .orderedPairs), ("pairs", .pairs), ("set", .set), ("merge", .merge), ("value", .value)]

def Kind.ofTag (tag : String) : Kind :=
  ((kinds.find? fun (name, _) => tag = "tag:yaml.org,2002:" ++ name).map Prod.snd).getD .unknown

/-- What the plain scalars of a kind look like, in the order in which kinds are tried. -/
def plainForms : List (Kind × String) := [
  (.bool, "^(?:yes|Yes|YES|no|No|NO|true|True|TRUE|false|False|FALSE|on|On|ON|off|Off|OFF)$"),
  (.float, "^(?:[-+]?(?:[0-9][0-9_]*)\\.[0-9_]*(?:[eE][-+][0-9]+)?" ++
    "|\\.[0-9][0-9_]*(?:[eE][-+][0-9]+)?" ++
    "|[-+]?[0-9][0-9_]*(?::[0-5]?[0-9])+\\.[0-9_]*" ++
    "|[-+]?\\.(?:inf|Inf|INF)|\\.(?:nan|NaN|NAN))$"),
  (.int, "^(?:[-+]?0b[0-1_]+|[-+]?0[0-7_]+|[-+]?(?:0|[1-9][0-9_]*)|[-+]?0x[0-9a-fA-F_]+" ++
    "|[-+]?[1-9][0-9_]*(?::[0-5]?[0-9])+)$"),
  (.merge, "^<<$"),
  (.null, "^(?:~|null|Null|NULL)$"),
  (.moment, "^(?:[0-9][0-9][0-9][0-9]-[0-9][0-9]-[0-9][0-9]" ++
    "|[0-9][0-9][0-9][0-9]-[0-9][0-9]?-[0-9][0-9]?(?:[Tt]|[ \\t]+)[0-9][0-9]?" ++
    ":[0-9][0-9]:[0-9][0-9](?:\\.[0-9]*)?(?:[ \\t]*(?:Z|[-+][0-9][0-9]?(?::[0-9][0-9])?))?)$"),
  (.value, "^=$")]

/-- Does a text look as a form says? -/
def looksLike (form : String) (text : List Char) : Bool :=
  match Pattern.read form with
  | .ok (pattern, _) => pattern.matchesStart text
  | .error _ => false

/-- Signs that stand for no value when they stand alone. -/
def reservedForm : String := "^(?:!|&|\\*)$"

def Kind.ofPlain (text : String) : Kind :=
  if text.isEmpty then .null
  else if looksLike reservedForm text.toList then .unknown
  else ((plainForms.find? fun (_, form) => looksLike form text.toList).map Prod.fst).getD .text

/-! ## Truth values and numbers -/

def boolNames : List (String × Bool) := [
  ("yes", true), ("no", false), ("true", true), ("false", false), ("on", true), ("off", false)]

def readBool (text : String) : Except Fault Bool :=
  match boolNames.lookup (Text.lower text) with
  | some value => .ok value
  | none => .error (.unknownName (Text.lower text))

/-- A sign and the rest of a number without underscores; a number has a text. -/
def splitSign (text : List Char) : Except Fault (Bool × List Char) :=
  match text.filter (· ≠ '_') with
  | [] => .error .emptyNumber
  | '-' :: rest => .ok (true, rest)
  | '+' :: rest => .ok (false, rest)
  | digits => .ok (false, digits)

def readDigits (base : Nat) (digits : List Char) : Except Fault Int :=
  match signedInteger? base digits with
  | some value => .ok value
  | none => .error .invalidScalar

/-- A number in groups to the base of sixty. -/
def readGroups (text : List Char) : Except Fault Int := do
  let groups ← (Text.splitAt ':' text).mapM (readDigits 10)
  return groups.foldl (fun n digit => 60 * n + digit) 0

/-- An integer after its sign: binary, octal or hexadecimal after a zero, in groups, or decimal. Its
digits may have a sign of their own. -/
def readUnsigned : List Char → Except Fault Int
  | [] => .error .emptyNumber
  | ['0'] => .ok 0
  | '0' :: 'b' :: digits => readDigits 2 digits
  | '0' :: 'x' :: digits => readDigits 16 digits
  | '0' :: digits => readDigits 8 ('0' :: digits)
  | digits => if digits.contains ':' then readGroups digits else readDigits 10 digits

def readInt (text : String) : Except Fault Int := do
  let (negative, digits) ← splitSign text.toList
  let value ← readUnsigned digits
  return if negative then -value else value

/-- The double of the other sign. -/
def negate (x : Binary64) : Binary64 := x.mul (.ofInt (-1))

/-- Sum up groups to the base of sixty, the last one first. -/
def sumGroups (unit : Int) (sum : Binary64) : List Binary64 → Except Fault Binary64
  | [] => .ok sum
  | digit :: rest =>
    let factor := Binary64.ofInt unit
    if factor.isInfinite then .error .tooManyGroups
    else sumGroups (unit * 60) (sum.add (digit.mul factor)) rest

def readDouble (text : List Char) : Except Fault Binary64 :=
  match plainFloat (trimPadding (plainDigits text)) with
  | some value => .ok value
  | none => .error .invalidScalar

def readFloat (text : String) : Except Fault Binary64 := do
  let (negative, body) ← splitSign (Text.lower text).toList
  -- The sign of what is not a number means nothing.
  if body = ".nan".toList then return .nan
  let value ←
    if body = ".inf".toList then pure (.infinity false)
    else if body.contains ':' then do
      let groups ← (Text.splitAt ':' body).mapM readDouble
      sumGroups 1 (.ofInt 0) groups.reverse
    else readDouble body
  return if negative then negate value else value

/-! ## Moments -/

def momentForm : String :=
  "^[0-9][0-9][0-9][0-9]-[0-9][0-9]?-[0-9][0-9]?(?:(?:[Tt]|[ \\t]+)[0-9][0-9]?" ++
  ":[0-9][0-9]:[0-9][0-9](?:\\.[0-9]*)?(?:[ \\t]*(?:Z|[-+][0-9][0-9]?(?::[0-9][0-9])?))?)?$"

/-- Is a moment one of the calendar? A difference to world time is less than a day. -/
def isMoment (text : List Char) : Bool :=
  let numbers (s : List Char) := (Calendar.digitRuns s).map Json.digitsValue
  match numbers text with
  | [year, month, day] => Calendar.isDate year month day
  | year :: month :: day :: hour :: minute :: second :: _ =>
    -- The difference follows the sign after the last colon of the time of day.
    let time := (text.dropWhile (· ≠ ':')).dropWhile fun c => c ≠ '+' && c ≠ '-'
    Calendar.isDate year month day && Calendar.isTimeOfDay hour minute second &&
      match numbers time with
      | [] => true
      | hours :: more => 60 * hours + more.headD 0 < 24 * 60
  | _ => false

def readMoment (text : String) : Except Fault Datum :=
  if !looksLike momentForm text.toList then .error .formlessMoment
  else if isMoment text.toList then .ok (.moment text)
  else .error .invalidScalar

/-! ## Bytes -/

/-- The value of a letter of the base of sixty-four. -/
def letterValue? (c : Char) : Option Nat :=
  if 'A' ≤ c ∧ c ≤ 'Z' then some (c.toNat - 65)
  else if 'a' ≤ c ∧ c ≤ 'z' then some (c.toNat - 71)
  else if c.isDigit then some (c.toNat + 4)
  else if c = '+' then some 62
  else if c = '/' then some 63
  else none

/-- Bytes from letters of the base of sixty-four. `count` letters of the present group were read, with
the bits `bits` that no byte holds yet; `padding` counts equality signs. Other characters mean
nothing. -/
def lettersToBytes (count bits padding : Nat) : List Char → Option (List UInt8)
  | [] => if count = 0 then some [] else none
  | c :: rest =>
    -- padding ends the bytes where a group of four is full, and counts for nothing before its third letter
    if c = '=' then
      if 2 ≤ count then
        if 4 ≤ count + padding + 1 then some [] else lettersToBytes count bits (padding + 1) rest
      else lettersToBytes count bits padding rest
    else match letterValue? c with
      -- signs that are no letters are passed over
      | none => lettersToBytes count bits padding rest
      | some value =>
        let all := bits * 64 + value
        match count with
        | 0 => lettersToBytes 1 value 0 rest
        | 1 => (lettersToBytes 2 (all % 16) 0 rest).map (UInt8.ofNat (all / 16) :: ·)
        | 2 => (lettersToBytes 3 (all % 4) 0 rest).map (UInt8.ofNat (all / 4) :: ·)
        | _ => (lettersToBytes 0 0 0 rest).map (UInt8.ofNat all :: ·)

def readBinary (text : String) : Except Fault Datum :=
  if text.toList.any fun c => 128 ≤ c.toNat then .error .invalidScalar
  else match lettersToBytes 0 0 0 text.toList with
    | some bytes => .ok (.binary bytes)
    | none => .error .invalidScalar

def scalarValue (kind : Kind) (text : String) : Except Fault Datum :=
  match kind with
  | .null => .ok .null
  | .bool => (readBool text).map .bool
  | .int => (readInt text).map .int
  | .float => (readFloat text).map .float
  | .binary => readBinary text
  | .moment => readMoment text
  | .text => .ok (.text text)
  | .merge | .value | .unknown => .error .unknownTag
  | .list | .mapping | .orderedPairs | .pairs | .set => .error .invalidScalar

end Bindery.Data.Yaml
