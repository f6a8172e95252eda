import Bindery.Text.Charset.Decoding

/-!
# Rows of characters

The large sets of characters are arranged in rows. A grid is written down row by row, one line to a
row; a replacement character marks a gap.
-/
namespace Bindery.Text

structure CharGrid where
  /-- The number of the first row. -/
  first : Nat
  /-- The rows, read when they are first needed. -/
  rows : Thunk (Array (Array Char))

/-- The rows of a text, whose first line is empty. -/
def textRows (text : String) : Array (Array Char) :=
  (((splitAt '\n' text.toList).drop 1).map fun row => row.toArray).toArray

def CharGrid.ofText (first : Nat) (text : String) : CharGrid :=
  { first, rows := Thunk.mk fun _ => textRows text }

/-- The character in a row, at a place counted from zero. -/
def CharGrid.find? (grid : CharGrid) (row column : Nat) : Option Char :=
  if row < grid.first then none
  else ((grid.rows.get[row - grid.first]?).bind fun cells => cells[column]?).filter (· ≠ replacement)

/-- The characters of some rows, in order. -/
def CharGrid.within (grid : CharGrid) (low high : Nat) : List Char :=
  ((grid.rows.get.toList.drop (low - grid.first)).take (high + 1 - low)).flatMap fun row =>
    row.toList.filter (· ≠ replacement)

/-- The character for a pair of bytes in a grid whose rows and columns count from 33. -/
def CharGrid.pair? (grid : CharGrid) (row column : Nat) : Option Char :=
  if 33 ≤ column then grid.find? row (column - 33) else none

/-- The image of a number, if a map has one. -/
def CharMap.find? (map : CharMap) (n : Nat) : Option Char :=
  let c := Char.ofNat n
  let image := map.apply c
  if image = c then none else some image

/-- The numbers from `low` on that are not in an ascending list, `count` numbers in all. -/
def missingFrom (low : Nat) : Nat → List Nat → List Nat
  | 0, _ => []
  | count + 1, [] => low :: missingFrom (low + 1) count []
  | count + 1, n :: rest =>
    if n = low then missingFrom (low + 1) count rest
    else low :: missingFrom (low + 1) count (n :: rest)

/-- The characters of a range that are not in some rows of a grid. -/
def CharGrid.others (grid : CharGrid) (firstRow lastRow low high : Nat) : Array Char :=
  let taken := (((grid.within firstRow lastRow).map Char.toNat).filter fun n => low ≤ n && n ≤ high).mergeSort (· ≤ ·)
  ((missingFrom low (high + 1 - low) taken).map Char.ofNat).toArray

/-- Read a character of one or two bytes: ASCII characters stand for themselves, and other first
bytes need a second one. -/
def foundPair (pair? : Nat → Nat → Option Char) : List UInt8 → Found
  | [] => .cut
  | [a] => if a.toNat < 128 then .chars [Char.ofNat a.toNat] 1 else .cut
  | a :: b :: _ =>
    if a.toNat < 128 then .chars [Char.ofNat a.toNat] 1
    else .ofChar? (pair? a.toNat b.toNat) 2

end Bindery.Text
