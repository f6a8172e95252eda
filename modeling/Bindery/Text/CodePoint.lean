import Bindery.Text.CharTable

/-!
# Code points

A row of code points need not be a text. Characters beyond the first 65536 have a pair of surrogates for some encodings
and for the escapes of JSON, and half of such a pair may stand alone; it is no character then.
-/
namespace Bindery.Text

/-- A character, or half of a surrogate pair by its place among all halves. -/
inductive CodePoint where
  | char (c : Char)
  | half (place : Fin 2048)
  deriving DecidableEq, Repr

namespace CodePoint

def ofNat (n : Nat) : CodePoint :=
  if surrogate : 0xd800 ≤ n ∧ n < 0xe000 then half ⟨n - 0xd800, by omega⟩ else char (Char.ofNat n)

/-- The character of a pair of surrogates. -/
def ofPair (high low : Nat) : CodePoint := ofNat (0x10000 + (high - 0xd800) * 0x400 + (low - 0xdc00))

def char? : CodePoint → Option Char
  | char c => some c
  | half _ => none

/-- The private characters that stand for halves begin here; there is one for each. -/
def standInStart : Nat := 0x10f800

/-- A character for each code point. Halves have private characters, so that different halves stay different. -/
def standIn : CodePoint → Char
  | char c => c
  | half place => Char.ofNat (standInStart + place)

end CodePoint

/-- The text that code points are, unless a half of a pair is among them. -/
def textOfPoints? (points : List CodePoint) : Option String := (points.mapM CodePoint.char?).map String.ofList

/-- Code points as a text in any case, with private characters for halves of pairs. -/
def textOfPoints (points : List CodePoint) : String := String.ofList (points.map CodePoint.standIn)

def pointsOf (text : String) : List CodePoint := text.toList.map .char

end Bindery.Text
