import Bindery.Data.Calendar
import Bindery.Data.NumberText
import Bindery.Pattern.Reader

/-!
# TOML scalars

Texts, numbers and moments. A reader gives the value and what follows it.
-/
namespace Bindery.Data.Toml

open Bindery.Number (Binary64)

/-- Why a text is not read. -/
inductive Fault where
  | malformed
  /-- An integer has too many digits. -/
  | hugeInteger
  /-- Lists and tables written in place are nested too deeply. -/
  | tooDeep
  deriving DecidableEq, Repr

abbrev Reader (α : Type) := List Char → Except Fault (α × List Char)

def isControl (c : Char) : Bool := c.toNat < 32 || c.toNat = 127

/-- Control characters that texts on one line, and comments, cannot hold. -/
def isIllegal (c : Char) : Bool := isControl c && c ≠ '\t'

/-- Control characters that no text can hold. -/
def isIllegalInLines (c : Char) : Bool := isIllegal c && c ≠ '\n'

def isBlankChar (c : Char) : Bool := c = ' ' || c = '\t'

def skipBlanks (s : List Char) : List Char := s.dropWhile isBlankChar

def skipBlankLines (s : List Char) : List Char := s.dropWhile fun c => isBlankChar c || c = '\n'

/-! ## Texts -/

def codeEscape (count : Nat) (s : List Char) : Except Fault (List Char × List Char) :=
  let digits := s.take count
  let code := Text.hexNumber digits
  if digits.length = count ∧ digits.all Text.isHexDigit ∧ code.isValidChar then
    .ok ([Char.ofNat code], s.drop count)
  else .error .malformed

def shortEscapes : List (Char × Char) := [
  ('b', '\x08'), ('t', '\t'), ('n', '\n'), ('f', '\x0c'), ('r', '\r'), ('"', '"'), ('\\', '\\')]

/-- What an escape after its backslash stands for. In a text of several lines, a backslash at the end
of a line hides the blanks and line breaks after it. -/
def escape (lines : Bool) : List Char → Except Fault (List Char × List Char)
  | [] => .error .malformed
  | c :: rest =>
    if lines && c = '\n' then .ok ([], skipBlankLines rest)
    else if lines && isBlankChar c then
      match skipBlanks rest with
      | [] => .ok ([], [])
      | '\n' :: more => .ok ([], skipBlankLines more)
      | _ => .error .malformed
    else if c = 'u' then codeEscape 4 rest
    else if c = 'U' then codeEscape 8 rest
    else match shortEscapes.lookup c with
      | some meant => .ok ([meant], rest)
      | none => .error .malformed

/-- The rest of a text after its opening quotation marks. -/
def basicText (lines : Bool) : Nat → List Char → List Char → Except Fault (List Char × List Char)
  | 0, _, _ => .error .malformed
  | _ + 1, _, [] => .error .malformed
  | fuel + 1, done, c :: rest =>
    if c = '"' then
      if !lines then .ok (done.reverse, rest)
      else match rest with
        | '"' :: '"' :: after => .ok (done.reverse, after)
        | _ => basicText lines fuel ('"' :: done) rest
    else if c = '\\' then do
      let (meant, after) ← escape lines rest
      basicText lines fuel (meant.reverse ++ done) after
    else if (if lines then isIllegalInLines c else isIllegal c) then .error .malformed
    else basicText lines fuel (c :: done) rest

/-- A text in apostrophes on one line. -/
def literalText (s : List Char) : Except Fault (List Char × List Char) :=
  let text := s.takeWhile (· ≠ '\'')
  match s.dropWhile (· ≠ '\'') with
  | [] => .error .malformed
  | _ :: after => if text.any isIllegal then .error .malformed else .ok (text, after)

/-- A text in three apostrophes. -/
def literalLines : List Char → List Char → Except Fault (List Char × List Char)
  | _, [] => .error .malformed
  | done, '\'' :: '\'' :: '\'' :: after => .ok (done.reverse, after)
  | done, c :: rest => if isIllegalInLines c then .error .malformed else literalLines (c :: done) rest

/-- Up to two more quotation marks belong to a text that ends with three. -/
def extraMarks (mark : Char) (text : List Char) (s : List Char) : List Char × List Char :=
  let extra := min 2 (s.takeWhile (· = mark)).length
  (text ++ List.replicate extra mark, s.drop extra)

/-- A line break right after the opening marks is no part of the text. -/
def dropFirstBreak : List Char → List Char
  | '\n' :: rest => rest
  | s => s

/-- A text on one line, after its opening mark. -/
def lineText (mark : Char) (s : List Char) : Except Fault (List Char × List Char) :=
  if mark = '"' then basicText false (s.length + 1) [] s else literalText s

/-- A text of several lines, after its opening marks. -/
def linesText (mark : Char) (s : List Char) : Except Fault (List Char × List Char) := do
  let start := dropFirstBreak s
  let (text, after) ←
    if mark = '"' then basicText true (start.length + 1) [] start else literalLines [] start
  return extraMarks mark text after

/-! ## Numbers and moments -/

/-- A pattern as far as it matches at the start. -/
def matchStart? (form : String) (s : List Char) : Option (List Char × List Char) :=
  match Pattern.read form with
  | .error _ => none
  | .ok (pattern, _) =>
    (pattern.matchAt? false (.atStart s)).map fun finish => (s.take finish.position, finish.rest)

def timeForm : String := "(?:[01][0-9]|2[0-3]):[0-5][0-9]:[0-5][0-9](?:\\.[0-9]+)?"

def momentForm : String :=
  "[0-9][0-9][0-9][0-9]-(?:0[1-9]|1[0-2])-(?:0[1-9]|[12][0-9]|3[01])" ++
  "(?:[Tt ]" ++ timeForm ++ "(?:[Zz]|[+-](?:[01][0-9]|2[0-3]):[0-5][0-9])?)?"

def basedForm : String :=
  "0(?:x[0-9A-Fa-f](?:_?[0-9A-Fa-f])*|b[01](?:_?[01])*|o[0-7](?:_?[0-7])*)"

def integerForm : String := "[+-]?(?:0|[1-9](?:_?[0-9])*)"

def fractionForm : String := "(?:\\.[0-9](?:_?[0-9])*)?(?:[eE][+-]?[0-9](?:_?[0-9])*)?"

/-- A date, with a time and its difference to world time or without. -/
def moment (text : List Char) : Except Fault Datum :=
  match (Calendar.digitRuns text).map Json.digitsValue with
  | year :: month :: day :: _ =>
    if Calendar.isDate year month day then .ok (.moment (String.ofList text)) else .error .malformed
  | _ => .error .malformed

/-- An integer to the base that its second character names. -/
def basedInteger (text : List Char) : Nat :=
  let digits := (text.drop 2).filter (· ≠ '_')
  let base := match text[1]? with
    | some 'x' => 16
    | some 'o' => 8
    | _ => 2
  digits.foldl (fun n c => base * n + Text.hexValue c) 0

/-- A decimal integer without underscores. -/
def integer (text : List Char) : Except Fault Datum :=
  let digits := text.filter Char.isDigit
  if Json.digitLimit < digits.length then .error .hugeInteger
  else
    let magnitude : Int := Json.digitsValue digits
    .ok (.int (if text.head? = some '-' then -magnitude else magnitude))

/-- A number that is not finite. -/
def specialNumber (s : List Char) : Except Fault (Datum × List Char) :=
  let (sign, body) := match s with
    | '-' :: rest => (true, rest)
    | '+' :: rest => (false, rest)
    | _ => (false, s)
  match body with
  | 'i' :: 'n' :: 'f' :: rest => .ok (.float (.infinity sign), rest)
  | 'n' :: 'a' :: 'n' :: rest => .ok (.float .nan, rest)
  | _ => .error .malformed

def number (s : List Char) : Except Fault (Datum × List Char) :=
  match matchStart? basedForm s with
  | some (text, rest) => .ok (.int (basedInteger text), rest)
  | none =>
    match matchStart? integerForm s with
    | none => specialNumber s
    | some (whole, afterWhole) =>
      -- An integer has neither a fraction nor an exponent.
      match matchStart? fractionForm afterWhole with
      | none | some ([], _) => (integer (whole.filter (· ≠ '_'))).map fun value => (value, afterWhole)
      | some (fraction, rest) =>
        match plainFloat ((whole ++ fraction).filter (· ≠ '_')) with
        | some value => .ok (.float value, rest)
        | none => .error .malformed

/-- A number or a moment. -/
def plainScalar (s : List Char) : Except Fault (Datum × List Char) :=
  match matchStart? momentForm s with
  | some (text, rest) => (moment text).map fun value => (value, rest)
  | none =>
    match matchStart? timeForm s with
    | some (text, rest) => .ok (.moment (String.ofList text), rest)
    | none => number s

end Bindery.Data.Toml
