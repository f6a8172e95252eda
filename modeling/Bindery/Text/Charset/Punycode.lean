import Bindery.Text.Charset.Decoding

/-!
# Punycode

A text is written as its ASCII characters, a hyphen, and numbers that tell which other characters to
insert where. A number is a row of letters and digits, the lowest place first; how far a digit may
go on depends on the place and on the numbers before.
-/
namespace Bindery.Text

def punycodeDigit? (c : Char) : Option Nat :=
  if 'a' ≤ c ∧ c ≤ 'z' then some (c.toNat - 97)
  else if 'A' ≤ c ∧ c ≤ 'Z' then some (c.toNat - 65)
  else if c.isDigit then some (c.toNat - 22)
  else none

/-- The least digit that goes on at a place. -/
def punycodeThreshold (place bias : Nat) : Nat :=
  let target := 36 * (place + 1)
  if target < bias + 1 then 1 else if bias + 26 < target then 26 else target - bias

/-- The number at the front of a text, and what follows it. -/
def punycodeNumber? (bias : Nat) (place weight value : Nat) : List Char → Option (Nat × List Char)
  | [] => none
  | c :: rest =>
    match punycodeDigit? c with
    | none => none
    | some digit =>
      let threshold := punycodeThreshold place bias
      let value := value + digit * weight
      if digit < threshold then some (value, rest)
      else punycodeNumber? bias (place + 1) (weight * (36 - threshold)) value rest

/-- Divide by 35 until a number is below 456; there are `places` divisions so far. -/
def punycodeScale (fuel delta places : Nat) : Nat × Nat :=
  match fuel with
  | 0 => (delta, places)
  | fuel + 1 => if 455 < delta then punycodeScale fuel (delta / 35) (places + 36) else (delta, places)

def punycodeBias (delta : Nat) (first : Bool) (length : Nat) : Nat :=
  let delta := if first then delta / 700 else delta / 2
  let delta := delta + delta / length
  let (delta, places) := punycodeScale delta delta 0
  places + 36 * delta / (delta + 38)

/-- Insert the characters that numbers tell of. `position` is one more than that of the character
before. Each number takes a character. -/
def punycodeInsert (fuel : Nat) (text : List Char) (char position bias : Nat) (first : Bool)
    (numbers : List Char) : List Char :=
  match fuel, numbers with
  | 0, _ => text
  | _, [] => text
  | fuel + 1, _ =>
    match punycodeNumber? bias 0 1 0 numbers with
    | none => text
    | some (delta, rest) =>
      let length := text.length + 1
      let next := char + (position + delta) / length
      let next := if 0x10ffff < next then '?'.toNat else next
      let place := (position + delta) % length
      punycodeInsert fuel (text.take place ++ charOf next :: text.drop place) next (place + 1)
        (punycodeBias delta first length) false rest

/-- The text that bytes stand for; there is none if the numbers are not ASCII. -/
def decodePunycode? (bytes : List UInt8) : Option (List Char) :=
  let numbers := (bytes.reverse.takeWhile (· ≠ 0x2d)).reverse
  let plain := (bytes.take (bytes.length - numbers.length)).dropLast
  let char (byte : UInt8) : Char := if byte.toNat < 128 then Char.ofNat byte.toNat else replacement
  if numbers.all fun byte => byte.toNat < 128 then
    some (punycodeInsert numbers.length (plain.map char) 128 0 72 true (numbers.map char))
  else none

end Bindery.Text
