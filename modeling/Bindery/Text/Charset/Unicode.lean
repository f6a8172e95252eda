import Bindery.Text.Charset.Decoding
import Bindery.Text.CodePoint

/-!
# Encodings of all characters

UTF-8, UTF-16 and UTF-32. In the encodings of variable length the longest valid beginning of a
character counts as one place without meaning. A reader may allow for halves of surrogate pairs that
stand alone; they are code points without being characters.
-/
namespace Bindery.Text

/-- One decoded place: a code point, or nothing for bytes without meaning. -/
abbrev DecodedPoints := List (Option CodePoint)

/-- How a lead byte of UTF-8 goes on: the bits it gives, the bounds of the second byte and how many
bytes follow in all. -/
structure Lead where
  bits : Nat
  low : Nat
  high : Nat
  following : Nat

/-- What a first byte promises. With `surrogates`, their three-byte forms are accepted. -/
def lead? (surrogates : Bool) (byte : Nat) : Option Lead :=
  if byte < 0x80 then some ⟨byte, 0x80, 0xbf, 0⟩
  else if 0xc2 ≤ byte ∧ byte ≤ 0xdf then some ⟨byte - 0xc0, 0x80, 0xbf, 1⟩
  else if 0xe0 ≤ byte ∧ byte ≤ 0xef then
    some ⟨byte - 0xe0, if byte = 0xe0 then 0xa0 else 0x80,
      if byte = 0xed ∧ !surrogates then 0x9f else 0xbf, 2⟩
  else if 0xf0 ≤ byte ∧ byte ≤ 0xf4 then
    some ⟨byte - 0xf0, if byte = 0xf0 then 0x90 else 0x80, if byte = 0xf4 then 0x8f else 0xbf, 3⟩
  else none

/-- A character under way: its bits so far, the bounds of the next byte and the number of bytes
still missing. -/
structure Pending where
  bits : Nat
  low : Nat
  high : Nat
  missing : Nat

/-- The place that a first byte completes at once, or the character that it begins. -/
def startUtf8 (surrogates : Bool) (byte : Nat) : DecodedPoints × Option Pending :=
  match lead? surrogates byte with
  | none => ([none], none)
  | some lead =>
    if lead.following = 0 then ([some (.ofNat lead.bits)], none)
    else ([], some ⟨lead.bits, lead.low, lead.high, lead.following⟩)

/-- The places that one more byte completes, and the character then under way. -/
def stepUtf8 (surrogates : Bool) (byte : Nat) : Option Pending → DecodedPoints × Option Pending
  | none => startUtf8 surrogates byte
  | some p =>
    if p.low ≤ byte ∧ byte ≤ p.high then
      let bits := p.bits * 64 + (byte - 0x80)
      if p.missing ≤ 1 then ([some (.ofNat bits)], none)
      else ([], some ⟨bits, 0x80, 0xbf, p.missing - 1⟩)
    else
      let (places, state) := startUtf8 surrogates byte
      (none :: places, state)

/-- Decode UTF-8 with a character under way. -/
def decodeUtf8From (surrogates : Bool) (pending : Option Pending) : List UInt8 → DecodedPoints
  | [] => if pending.isSome then [none] else []
  | byte :: rest =>
    let (places, state) := stepUtf8 surrogates byte.toNat pending
    places ++ decodeUtf8From surrogates state rest

def decodeUtf8 (surrogates : Bool) (bytes : List UInt8) : DecodedPoints :=
  decodeUtf8From surrogates none bytes

inductive ByteOrder where
  | little
  | big
  deriving DecidableEq, Repr

/-- The number that two bytes form. -/
def ByteOrder.pair (order : ByteOrder) (a b : UInt8) : Nat :=
  match order with
  | .little => a.toNat + 256 * b.toNat
  | .big => 256 * a.toNat + b.toNat

/-- A surrogate on its own, where that is allowed. -/
def alone? (surrogates : Bool) (unit : Nat) : Option CodePoint := if surrogates then some (.ofNat unit) else none

/-- Decode UTF-16 of a known byte order. -/
def decodeUtf16 (order : ByteOrder) (surrogates : Bool) : List UInt8 → DecodedPoints
  | [] => []
  | [_] => [none]
  | a :: b :: rest =>
    let unit := order.pair a b
    if 0xd800 ≤ unit ∧ unit < 0xdc00 then
      match rest with
      | c :: d :: more =>
        let low := order.pair c d
        if 0xdc00 ≤ low ∧ low < 0xe000 then some (.ofPair unit low) :: decodeUtf16 order surrogates more
        -- the second unit is read again in its own right
        else alone? surrogates unit :: decodeUtf16 order surrogates (c :: d :: more)
      | [c] => if surrogates then alone? surrogates unit :: decodeUtf16 order surrogates [c] else [none]
      | [] => [alone? surrogates unit]
    else if 0xdc00 ≤ unit ∧ unit < 0xe000 then alone? surrogates unit :: decodeUtf16 order surrogates rest
    else some (.ofNat unit) :: decodeUtf16 order surrogates rest

def decodeUtf32 (order : ByteOrder) (surrogates : Bool) : List UInt8 → DecodedPoints
  | [] => []
  | a :: b :: c :: d :: rest =>
    let unit := match order with
      | .little => order.pair a b + 0x10000 * order.pair c d
      | .big => 0x10000 * order.pair a b + order.pair c d
    let place :=
      if 0xd800 ≤ unit ∧ unit < 0xe000 then alone? surrogates unit
      else if unit < 0x110000 then some (.ofNat unit)
      else none
    place :: decodeUtf32 order surrogates rest
  | _ => [none]

/-- The byte order that a mark of two bytes declares, and the bytes after it. -/
def splitMark16 : List UInt8 → Option ByteOrder × List UInt8
  | 0xff :: 0xfe :: rest => (some .little, rest)
  | 0xfe :: 0xff :: rest => (some .big, rest)
  | bytes => (none, bytes)

/-- The byte order that a mark of four bytes declares, and the bytes after it. -/
def splitMark32 : List UInt8 → Option ByteOrder × List UInt8
  | 0xff :: 0xfe :: 0 :: 0 :: rest => (some .little, rest)
  | 0 :: 0 :: 0xfe :: 0xff :: rest => (some .big, rest)
  | bytes => (none, bytes)

/-- The encodings of all characters. Without a byte order the bytes begin with a mark. -/
inductive UnicodeForm where
  | utf8
  | utf8Marked
  | utf16 (order : Option ByteOrder)
  | utf32 (order : Option ByteOrder)
  deriving DecidableEq, Repr

/-- The code points of bytes. With `surrogates`, halves of pairs may stand alone. -/
def UnicodeForm.decode (form : UnicodeForm) (surrogates : Bool) (bytes : List UInt8) : DecodedPoints :=
  match form with
  | .utf8 => decodeUtf8 surrogates bytes
  | .utf8Marked => decodeUtf8 surrogates <| match bytes with
      | [0xef] | [0xef, 0xbb] => []
      | 0xef :: 0xbb :: 0xbf :: rest => rest
      | _ => bytes
  | .utf16 (some order) => decodeUtf16 order surrogates bytes
  | .utf16 none =>
    let (order, rest) := splitMark16 bytes
    decodeUtf16 (order.getD .little) surrogates rest
  | .utf32 (some order) => decodeUtf32 order surrogates bytes
  | .utf32 none =>
    let (order, rest) := splitMark32 bytes
    decodeUtf32 (order.getD .little) surrogates rest

def encodeUtf8 (s : String) : List UInt8 := s.toUTF8.toList

end Bindery.Text
