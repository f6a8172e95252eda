import Bindery.Text.Charset.Decoding

/-!
# Texts with escapes

Bytes are characters of the same numbers, but for escapes that a backslash begins.
-/
namespace Bindery.Text

/-- The number that hexadecimal digits at the front form: `count` of them are needed, and `taken` is
the number of bytes up to the first that is none. -/
def hexEscape (count : Nat) (bytes : List UInt8) (value taken : Nat) : Nat × Nat × Bool :=
  match count, bytes with
  | 0, _ => (value, taken, true)
  | _ + 1, [] => (value, taken, false)
  | count + 1, byte :: rest =>
    let c := Char.ofNat byte.toNat
    if isHexDigit c then hexEscape count rest (16 * value + hexValue c) (taken + 1)
    else (value, taken, false)

/-- An escape by a number of hexadecimal digits, after the backslash and its letter. -/
def foundByNumber (count : Nat) (bytes : List UInt8) : Found :=
  match hexEscape count bytes 0 0 with
  | (value, taken, true) =>
    if value < 0x110000 then .chars [charOf value] (taken + 2) else .nothing (taken + 2)
  | (_, taken, false) => .nothing (taken + 2)

def letterEscapes : List (Char × Char) := [('\\', '\\'), ('\'', '\''), ('"', '"'), ('b', '\x08'), ('t', '\t'),
  ('n', '\n'), ('r', '\r'), ('f', '\x0c'), ('v', '\x0b'), ('a', '\x07')]

def isOctalDigit (byte : UInt8) : Bool := 48 ≤ byte.toNat && byte.toNat ≤ 55

/-- The length of a character's name in braces, with the braces, if it ends. -/
def bracedLength? (bytes : List UInt8) : Option Nat :=
  let name := bytes.takeWhile (· ≠ 125)
  if name.length < bytes.length then some (name.length + 1) else none

/-- An escape by the name of a character. Names are not known. -/
def foundByName (bytes : List UInt8) : Found :=
  match bytes with
  | 123 :: rest =>
    match bracedLength? rest with
    -- A name without a letter ends before its brace.
    | some 1 => .nothing 3
    | some length => .nothing (length + 3)
    | none => .nothing (rest.length + 3)
  | _ => .nothing 2

/-- The character at the front of a text with all kinds of escapes. -/
def foundEscaped : List UInt8 → Found
  | [] => .cut
  | 92 :: [] => .nothing 1
  | 92 :: letter :: rest =>
    let c := Char.ofNat letter.toNat
    if c = '\n' then .chars [] 2
    else if isOctalDigit letter then
      let digits := letter :: (rest.take 2).takeWhile isOctalDigit
      let value := digits.foldl (fun n d => 8 * n + (d.toNat - 48)) 0
      .chars [Char.ofNat value] (digits.length + 1)
    else if c = 'x' then foundByNumber 2 rest
    else if c = 'u' then foundByNumber 4 rest
    else if c = 'U' then foundByNumber 8 rest
    else if c = 'N' then foundByName rest
    else match letterEscapes.lookup c with
      | some image => .chars [image] 2
      -- a backslash before any other character stands for itself
      | none => .chars ['\\', c] 2
  | byte :: _ => .chars [Char.ofNat byte.toNat] 1

/-- The character at the front of a text whose only escapes are numbers of four or eight digits. -/
def foundEscapedByNumber : List UInt8 → Found
  | [] => .cut
  | 92 :: letter :: rest =>
    let c := Char.ofNat letter.toNat
    if c = 'u' then foundByNumber 4 rest
    else if c = 'U' then foundByNumber 8 rest
    else .chars ['\\', c] 2
  | byte :: _ => .chars [Char.ofNat byte.toNat] 1

end Bindery.Text
