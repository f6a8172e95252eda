import Bindery.Text.Blank
import Bindery.Text.Charset
import Bindery.Text.Digit
import Bindery.Text.LetterCase

/-!
# Parameters of header values

The value of a header field may have parameters after semicolons. A parameter can be given in
sections, `name*0=…; name*1=…`, and sections marked by a star at the end of their name are written
in percent signs, after the charset and the language of the value.
-/
namespace Bindery.Network

open Bindery.Text (Charset trimBlanks)

/-- The pieces of a value between semicolons outside quotes. A quote after a backslash does not
count; `previous` is the character before. -/
def valuePieces (quoted : Bool) (previous : Char) : List Char → List (List Char)
  | [] => [[]]
  | c :: rest =>
    if c = ';' ∧ !quoted then [] :: valuePieces false ';' rest
    else
      let quoted := if c = '"' ∧ previous ≠ '\\' then !quoted else quoted
      match valuePieces quoted c rest with
      | [] => [[c]]
      | piece :: others => (c :: piece) :: others

/-- A text without the backslashes before backslashes, and then without those before quotes. -/
def withoutEscapes (s : List Char) : List Char :=
  quotes (backslashes s)
where
  backslashes : List Char → List Char
    | '\\' :: '\\' :: rest => '\\' :: backslashes rest
    | c :: rest => c :: backslashes rest
    | [] => []
  quotes : List Char → List Char
    | '\\' :: '"' :: rest => '"' :: quotes rest
    | c :: rest => c :: quotes rest
    | [] => []

/-- A text without the quotes or the angle brackets around it. -/
def unquote (s : List Char) : List Char :=
  match s, s.getLast? with
  | '"' :: rest, some '"' => if rest.isEmpty then s else withoutEscapes rest.dropLast
  | '<' :: rest, some '>' => rest.dropLast
  | _, _ => s

/-- A parameter as it is written: its name in small letters, and its value with its quotes. -/
structure WrittenParameter where
  name : List Char
  value : List Char
  deriving DecidableEq, Repr, Inhabited

def WrittenParameter.ofPiece (piece : List Char) : WrittenParameter :=
  { name := if piece.contains '=' then Text.lowerList (trimBlanks (piece.takeWhile (· ≠ '=')))
      else trimBlanks piece
    value := trimBlanks ((piece.dropWhile (· ≠ '=')).drop 1) }

/-- A section of a parameter. -/
structure ParameterSection where
  number : Option Nat
  value : List Char
  /-- Is it written in percent signs? -/
  encoded : Bool
  deriving DecidableEq, Repr, Inhabited

def isWordChar (c : Char) : Bool := c.isAlphanum || c = '_'

/-- The name of a parameter, and the number of its section, if a name is that of one. -/
def sectionName? (name : List Char) : Option (List Char × Option Nat) :=
  let word := name.takeWhile isWordChar
  match name.drop word.length with
  | '*' :: rest =>
    let digits := rest.takeWhile Char.isDigit
    let after := rest.drop digits.length
    if word.isEmpty then none
    else if digits.isEmpty then if after.isEmpty then some (word, none) else none
    else if after.isEmpty ∨ after = ['*'] then some (word, some (Text.decimalNumber digits))
    else none
  | _ => none

/-- The name of a parameter and a section of it, if a parameter is written as one. -/
def WrittenParameter.section? (parameter : WrittenParameter) : Option (List Char × ParameterSection) :=
  (sectionName? parameter.name).map fun (name, number) =>
    let encoded : Bool := parameter.name.getLast? = some '*'
    (name, { number, value := unquote parameter.value, encoded })

/-- Why a value cannot be read. -/
inductive ParameterFault where
  /-- Some sections of a parameter are numbered and others are not. -/
  | mixedSections
  deriving DecidableEq, Repr

/-- The order of sections: by number, then by value, then plain ones first. -/
def ParameterSection.le (a b : ParameterSection) : Bool :=
  let m := a.number.getD 0
  let n := b.number.getD 0
  if m ≠ n then m < n
  else if a.value ≠ b.value then a.value < b.value
  else !a.encoded || b.encoded

/-- A text without percent signs: two hexadecimal digits after one are the number of a character. -/
def withoutPercents : List Char → List Char
  | '%' :: a :: b :: rest =>
    if Text.isHexDigit a && Text.isHexDigit b then Char.ofNat (Text.hexNumber [a, b]) :: withoutPercents rest
    else '%' :: withoutPercents (a :: b :: rest)
  | c :: rest => c :: withoutPercents rest
  | [] => []

/-- The value of a parameter in sections, as a text or nothing, and its charset if it names one. -/
def joinSections (sections : List ParameterSection) :
    Except ParameterFault (Option (List Char) × List Char) :=
  let numbered := sections.filter fun part => part.number.isSome
  if !numbered.isEmpty ∧ numbered.length < sections.length then .error .mixedSections
  else
    let ordered := sections.mergeSort ParameterSection.le
    let joined := ordered.flatMap fun part => if part.encoded then withoutPercents part.value else part.value
    if !ordered.any ParameterSection.encoded then .ok (none, joined)
    else match Text.splitAt '\'' joined with
      | charset :: _ :: first :: others =>
        .ok (some charset, List.intercalate ['\''] (first :: others))
      | _ => .ok (some [], joined)

/-- The value of a parameter whose charset is named, if it can be decoded, or else as it is. -/
def decodedValue (charset : List Char) (value : List Char) : List Char :=
  let charset := if charset.isEmpty then some Charset.ascii else Charset.named? (String.ofList charset)
  match charset.bind fun c => c.decodeStrictly? (value.map fun c => UInt8.ofNat c.toNat) with
  | some text => text.toList
  | none => value

/-- A parameter of a header value. Parameters that are given as a whole come before others. -/
def valueParameter? (name : String) (value : String) : Except ParameterFault (Option String) :=
  match (valuePieces false ';' value.toList).map WrittenParameter.ofPiece with
  | [] => .ok none
  | first :: others => do
    let parts := others.map fun other => (other, other.section?)
    -- pieces of one parameter may be given apart, and join in the order of their numbers
    let names := (parts.filterMap fun part => part.2.map Prod.fst).eraseDups
    let joined ← names.mapM fun found => do
      let sections := parts.filterMap fun part => part.2.filter fun given => given.1 = found
      return (found, ← joinSections (sections.map Prod.snd))
    let whole := first :: (parts.filter fun part => part.2.isNone).map Prod.fst
    -- a parameter that is given whole is preferred to one in sections
    match whole.find? fun other => Text.lowerList other.name = name.toList with
    | some found => return some (String.ofList (unquote found.value))
    | none =>
      match joined.find? fun other => Text.lowerList other.1 = name.toList with
      | some (_, some charset, text) => return some (String.ofList (decodedValue charset text))
      | some (_, none, text) => return some (String.ofList text)
      | none => return none

end Bindery.Network
