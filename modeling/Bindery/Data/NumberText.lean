import Bindery.Data.Json
import Bindery.Text.Blank
import Bindery.Text.Digit

/-!
# Numbers in texts

Numbers as people write them into texts: with blanks around them, with underscores between digits,
and with names for what is not finite.
-/
namespace Bindery.Data

open Bindery.Number (Binary64)

/-- White space around a number in a text. -/
def isPadding (c : Char) : Bool := Text.isBlank c && !(28 ≤ c.toNat && c.toNat ≤ 31)

def trimPadding (s : List Char) : List Char :=
  ((s.dropWhile isPadding).reverse.dropWhile isPadding).reverse

/-- Digits and white space of every script as those of ASCII. -/
def plainDigits (s : List Char) : List Char :=
  s.map fun c =>
    if c.toNat < 128 then c
    else if Text.isBlank c then ' '
    else match Text.digitValue? c with
      | some digit => Char.ofNat (48 + digit)
      | none => c

/-- Digits with single underscores between them allowed, the underscores removed. -/
def joinGroups (s : List Char) : Option (List Char) :=
  if s.head? = some '_' ∨ s.getLast? = some '_' then none
  else if (s.zip s.tail).contains ('_', '_') then none
  else some (s.filter (· ≠ '_'))

/-- A decimal number: digits with an optional point and an optional exponent. -/
def plainDecimal (negative : Bool) (s : List Char) : Option Binary64 :=
  let whole := s.takeWhile Char.isDigit
  let afterWhole := s.dropWhile Char.isDigit
  let (fraction, rest) := match afterWhole with
    | '.' :: more => (more.takeWhile Char.isDigit, more.dropWhile Char.isDigit)
    | _ => ([], afterWhole)
  if whole.isEmpty && fraction.isEmpty then none
  else
    match rest, Json.readExponent rest with
    | [], _ => some (.ofDecimal negative (Json.digitsValue (whole ++ fraction)) (-fraction.length))
    | _, (some exponent, []) =>
      some (.ofDecimal negative (Json.digitsValue (whole ++ fraction)) (exponent - fraction.length))
    | _, _ => none

/-- A signed number, an infinity or what is not a number. -/
def plainFloat (s : List Char) : Option Binary64 :=
  let (negative, body) := match s with
    | '-' :: rest => (true, rest)
    | '+' :: rest => (false, rest)
    | _ => (false, s)
  let word := String.ofList (body.map Char.toLower)
  if word = "inf" ∨ word = "infinity" then some (.infinity negative)
  else if word = "nan" then some .nan
  else plainDecimal negative body

/-- The letters that name a base after a zero. -/
def baseLetters : List (Nat × List Char) := [(2, ['b', 'B']), (8, ['o', 'O']), (16, ['x', 'X'])]

/-- What follows the name of a base, if it is there. -/
def dropBaseName (base : Nat) (s : List Char) : List Char :=
  match s with
  | '0' :: letter :: rest => if ((baseLetters.lookup base).getD []).contains letter then rest else s
  | _ => s

def isDigitOf (base : Nat) (c : Char) : Bool := Text.isHexDigit c && Text.hexValue c < base

/-- An integer to some base, with blanks around it, a sign before it and the name of the base before
its digits. Decimal digits are limited in number. -/
def signedInteger? (base : Nat) (s : List Char) : Option Int :=
  let (negative, body) := match trimPadding (plainDigits s) with
    | '-' :: rest => (true, rest)
    | '+' :: rest => (false, rest)
    | rest => (false, rest)
  let digits := dropBaseName base body
  if digits.isEmpty || !digits.all (isDigitOf base) then none
  else if base = 10 ∧ Json.digitLimit < digits.length then none
  else
    let magnitude : Int := digits.foldl (fun n c => base * n + Text.hexValue c) 0
    some (if negative then -magnitude else magnitude)

end Bindery.Data
