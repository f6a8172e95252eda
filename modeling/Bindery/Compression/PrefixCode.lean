import Bindery.Compression.Bits

/-!
# Prefix codes

Symbols are written with more or fewer bits. The numbers of bits alone determine a code: shorter
sequences come before longer ones, and among sequences of one length, those of smaller symbols come
first.
-/
namespace Bindery.Compression

/-- A code. -/
structure PrefixCode where
  /-- How many symbols have one bit, two bits and so on. -/
  counts : List Nat
  /-- The symbols, those with fewer bits first. -/
  symbols : Array Nat
  deriving Repr, Inhabited

def longestSequence : Nat := 15

namespace PrefixCode

/-- The numbers of symbols by their numbers of bits. -/
def countsOf (lengths : List Nat) : List Nat :=
  (List.range longestSequence).map fun n => lengths.count (n + 1)

/-- The symbols with a number of bits. -/
def symbolsOf (lengths : List Nat) (bits : Nat) : List Nat :=
  lengths.zipIdx.filterMap fun (length, symbol) => if length = bits then some symbol else none

/-- How many sequences of the greatest length are left over, if there are enough for all symbols. -/
def unused? (left : Nat) : List Nat → Option Nat
  | [] => some left
  | count :: rest => if 2 * left < count then none else unused? (2 * left - count) rest

/-- The code of some numbers of bits, where zero stands for a symbol that does not occur. No sequence
may be left over; but where `lenient`, one symbol alone may have one bit. A code without symbols takes
one bit, which then stands for nothing. -/
def ofLengths? (lenient : Bool) (lengths : List Nat) : Option PrefixCode :=
  let counts := countsOf lengths
  let symbols := ((List.range longestSequence).flatMap fun n => symbolsOf lengths (n + 1)).toArray
  let longest := (counts.reverse.dropWhile (· = 0)).length
  match unused? 1 counts with
  | none => none
  | some left =>
    if longest ≤ 1 ∧ (longest = 0 ∨ left = 0 ∨ lenient) then some ⟨counts.take 1, symbols⟩
    else if left = 0 then some ⟨counts, symbols⟩
    else none

/-- Read a symbol. Of the sequences with as many bits as were read, `first` is the first one for a
symbol, and `index` is the place of that. -/
def readFrom (code : PrefixCode) (read first index : Nat) : List Nat → Reading (Option Nat)
  | [] => return none
  | count :: counts => do
    let read := read + (← Reading.bits 1)
    if read < first + count then return code.symbols[index + (read - first)]?
    else readFrom code (2 * read) (2 * (first + count)) (index + count) counts

/-- Read a symbol, if the bits stand for one. -/
def read? (code : PrefixCode) : Reading (Option Nat) := readFrom code 0 0 0 code.counts

end PrefixCode

end Bindery.Compression
