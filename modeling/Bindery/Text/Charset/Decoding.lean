import Bindery.Text.CharTable

/-!
# Decoding bytes

Bytes are decoded from left to right. At each place a reader finds characters, or bytes without
meaning, or that the bytes end within a character.
-/
namespace Bindery.Text

/-- One decoded place: a character, or nothing for bytes without meaning. -/
abbrev Decoded := List (Option Char)

/-- What a reader finds at a place, and how many bytes that takes. -/
inductive Found where
  | chars (text : List Char) (width : Nat)
  | nothing (width : Nat)
  /-- The bytes end within a character. -/
  | cut
  deriving Repr, Inhabited

/-- What bytes are decoded to. -/
structure Decoding where
  places : Decoded
  /-- The number of bytes at the end that only begin a character. -/
  cut : Nat := 0
  deriving Repr, Inhabited

/-- All places; a beginning at the end counts as one without meaning. -/
def Decoding.allPlaces (decoding : Decoding) : Decoded :=
  if decoding.cut = 0 then decoding.places else decoding.places ++ [none]

/-- Read place after place; `done` holds what was read before, the last place first. A place takes at
least one byte. -/
def decodeFrom {σ : Type} (read : σ → List UInt8 → Found × σ) (state : σ) (done : Decoded) :
    List UInt8 → Decoding
  | [] => { places := done.reverse }
  | byte :: rest =>
    match read state (byte :: rest) with
    | (.chars text width, next) =>
      decodeFrom read next ((text.map some).reverse ++ done) (rest.drop (width - 1))
    | (.nothing width, next) => decodeFrom read next (none :: done) (rest.drop (width - 1))
    | (.cut, _) => { places := done.reverse, cut := rest.length + 1 }
  termination_by bytes => bytes.length
  decreasing_by all_goals simp only [List.length_drop, List.length_cons]; omega

/-- Decode with a reader whose finds depend on what came before. -/
def decodeWith {σ : Type} (read : σ → List UInt8 → Found × σ) (start : σ) (bytes : List UInt8) :
    Decoding :=
  decodeFrom read start [] bytes

/-- Decode with a reader that looks at nothing but the bytes at its place. -/
def decodeBy (read : List UInt8 → Found) (bytes : List UInt8) : Decoding :=
  decodeWith (fun (_ : Unit) rest => (read rest, ())) () bytes

/-- The character of a number; surrogates have none and are replaced. -/
def charOf (n : Nat) : Char := if 0xd800 ≤ n ∧ n < 0xe000 then replacement else Char.ofNat n

/-- A single character, or nothing. -/
def Found.ofChar? (c : Option Char) (width : Nat) : Found :=
  match c with
  | some c => .chars [c] width
  | none => .nothing 1

end Bindery.Text
