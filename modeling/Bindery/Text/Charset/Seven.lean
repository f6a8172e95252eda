import Bindery.Text.Charset.Decoding

/-!
# UTF-7

ASCII characters stand for themselves. Other ones are in sections that a plus sign begins: there each
character holds six bits of the units of UTF-16. A minus sign that ends a section belongs to it; any
other character that ends one stands for itself.
-/
namespace Bindery.Text

def sixBits? (byte : UInt8) : Option Nat :=
  let n := byte.toNat
  if 65 ≤ n ∧ n ≤ 90 then some (n - 65)
  else if 97 ≤ n ∧ n ≤ 122 then some (n - 71)
  else if 48 ≤ n ∧ n ≤ 57 then some (n + 4)
  else if n = 43 then some 62
  else if n = 47 then some 63
  else none

/-- What was read of a section but is not complete. -/
structure Section where
  /-- The bits that wait, as a number, and how many they are. -/
  bits : Nat := 0
  count : Nat := 0
  /-- The first half of a pair of units. -/
  high : Option Nat := none
  deriving Inhabited

/-- Do the bits that are left over at the end of a section hold something? -/
def Section.hasRest (sect : Section) : Bool := 6 ≤ sect.count || (0 < sect.count && sect.bits ≠ 0)

/-- The places that a unit completes, and the first half of a pair after it. -/
def takeUnit (high : Option Nat) (unit : Nat) : Decoded × Option Nat :=
  let alone : Decoded := if high.isSome then [some replacement] else []
  if 0xd800 ≤ unit ∧ unit < 0xdc00 then (alone, some unit)
  else match high with
    | some first =>
      if 0xdc00 ≤ unit ∧ unit < 0xe000 then
        ([some (Char.ofNat (0x10000 + (first - 0xd800) * 0x400 + (unit - 0xdc00)))], none)
      else (alone ++ [some (charOf unit)], none)
    | none => ([some (charOf unit)], none)

/-- The places that six more bits complete, and the section after them. -/
def Section.take (sect : Section) (six : Nat) : Decoded × Section :=
  let bits := sect.bits * 64 + six
  let count := sect.count + 6
  if count < 16 then ([], { sect with bits, count })
  else
    let scale := Nat.pow 2 (count - 16)
    let (places, high) := takeUnit sect.high (bits / scale)
    (places, { bits := bits % scale, count := count - 16, high })

/-- What is read next: plain characters, a section under way, or the character after a section. -/
inductive SevenState where
  | plain
  | within (sect : Section)

/-- The places that a byte outside sections completes, and the number of bytes after it that belong
to it. -/
def plainSeven (byte : UInt8) (rest : List UInt8) : Decoded × Nat × SevenState :=
  if byte = 43 then
    match rest with
    | [] => ([], 0, .within {})
    | next :: _ =>
      if next = 45 then ([some '+'], 1, .plain)
      else if (sixBits? next).isNone then ([none], 1, .plain)
      else ([], 0, .within {})
  else if byte.toNat < 128 then ([some (Char.ofNat byte.toNat)], 0, .plain)
  else ([none], 0, .plain)

/-- The places that a byte ending a section completes. -/
def leaveSection (sect : Section) (byte : UInt8) (rest : List UInt8) : Decoded × Nat × SevenState :=
  if sect.hasRest then ([none], 0, .plain)
  else
    let alone : Decoded := if sect.high.isSome ∧ byte.toNat < 128 ∧ byte ≠ 43 then [some replacement] else []
    if byte = 45 then (alone, 0, .plain)
    else
      let (places, more, state) := plainSeven byte rest
      (alone ++ places, more, state)

/-- Decode UTF-7; `done` holds the places before, the last one first. -/
def decodeSevenFrom (state : SevenState) (done : Decoded) : List UInt8 → Decoded
  | [] => match state with
    | .within sect =>
      -- a section that ends with the bytes must not leave bits of a character over
      if sect.hasRest || sect.high.isSome then (none :: done).reverse else done.reverse
    | .plain => done.reverse
  | byte :: rest =>
    let (places, more, next) := match state with
      | .plain => plainSeven byte rest
      | .within sect => match sixBits? byte with
        | some six =>
          let (places, after) := sect.take six
          (places, 0, .within after)
        | none => leaveSection sect byte rest
    decodeSevenFrom next (places.reverse ++ done) (rest.drop more)
  termination_by bytes => bytes.length
  decreasing_by simp only [List.length_drop, List.length_cons]; omega

def decodeSeven (bytes : List UInt8) : Decoding :=
  { places := decodeSevenFrom .plain [] bytes }

end Bindery.Text
