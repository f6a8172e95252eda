/-!
# Checksums

Two sums that tell whether bytes arrived as they were sent.
-/
namespace Bindery.Compression

def sumModulus : Nat := 65521

/-- The sum of all bytes and the sum of all such sums. -/
def sumCheck (bytes : List UInt8) : Nat :=
  let (low, high) := bytes.foldl (fun (low, high) byte =>
    let next := (low + byte.toNat) % sumModulus
    (next, (high + next) % sumModulus)) (1, 0)
  high * 0x10000 + low

/-- One step of a division by the polynomial of the cyclic check. -/
def cyclicStep (rest : UInt32) : UInt32 :=
  if rest &&& 1 = 1 then (rest >>> 1) ^^^ 0xedb88320 else rest >>> 1

/-- The rest after some steps. -/
def cyclicSteps : Nat → UInt32 → UInt32
  | 0, rest => rest
  | steps + 1, rest => cyclicSteps steps (cyclicStep rest)

/-- The rest of a division of all bytes, as of one number. -/
def cyclicCheck (bytes : List UInt8) : Nat :=
  let rest := bytes.foldl (fun rest byte => cyclicSteps 8 (rest ^^^ byte.toUInt32)) 0xffffffff
  (rest ^^^ 0xffffffff).toNat

end Bindery.Compression
