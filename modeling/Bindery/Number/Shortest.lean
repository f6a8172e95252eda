import Bindery.Number.Binary64

/-!
# The shortest decimal that reads back

A finite positive double stands for the interval of reals that round to it. For one digit, two
digits and so on, the two neighbours of the number on that decimal grid are compared with the
interval; the first grid with a hit gives the digits, and of two hits the nearer one is taken.
Seventeen digits always suffice.
-/
namespace Bindery.Number

/-- Decimal digits `d₁d₂…` with the value `0.d₁d₂… · 10^point`. -/
structure DecimalText where
  digits : List Char
  point : Int
  deriving DecidableEq, Repr

namespace Shortest

/-- The `point` for which `num / den` lies in `[10^(point-1), 10^point)`. -/
def pointOf (num den : Nat) : Int :=
  if den ≤ num then ((Nat.toDigits 10 (num / den)).length : Int)
  else 1 - ((Nat.toDigits 10 ((den - 1) / num)).length : Int)

/-- The numbers that round to one double: between `low / den` and `high / den`, with the ends when
`closed`. -/
structure Interval where
  low : Nat
  value : Nat
  high : Nat
  den : Nat
  closed : Bool

/-- The interval of a finite double that is not zero. Below a power of two the gap is half as
wide. -/
def intervalOf (x : Binary64) : Interval :=
  let m := x.significand
  let below := if x.fraction = 0 ∧ 1 < x.exponentField then 1 else 2
  let closed := m % 2 = 0
  if 2 ≤ x.scale then
    let unit := Nat.pow 2 (x.scale - 2).toNat
    ⟨(4 * m - below) * unit, 4 * m * unit, (4 * m + 2) * unit, 1, closed⟩
  else ⟨4 * m - below, 4 * m, 4 * m + 2, Nat.pow 2 (2 - x.scale).toNat, closed⟩

/-- The multiples of `10^exponent` next to the value that lie in the interval, as multipliers;
the nearer one first, and at a tie the even one. -/
def candidate? (range : Interval) (exponent : Int) : Option Nat :=
  -- everything is scaled to whole numbers, so the comparisons are exact
  let up := Nat.pow 10 exponent.toNat
  let down := Nat.pow 10 (-exponent).toNat
  let inside (n : Nat) : Bool :=
    let scaled := n * up * range.den
    if range.closed then range.low * down ≤ scaled ∧ scaled ≤ range.high * down
    else range.low * down < scaled ∧ scaled < range.high * down
  let floor := range.value * down / (range.den * up)
  let twice := 2 * (range.value * down - floor * up * range.den)
  let width := up * range.den
  let upperFirst := width < twice ∨ (twice = width ∧ floor % 2 = 1)
  -- of two candidates in the interval the nearer one is taken, and an even one from the middle
  match inside floor, inside (floor + 1) with
  | true, true => some (if upperFirst then floor + 1 else floor)
  | true, false => some floor
  | false, true => some (floor + 1)
  | false, false => none

/-- The first grid, from `count` digits on, that holds a number of the interval. -/
def search (range : Interval) (point : Int) : Nat → Nat → Nat × Int
  | 0, count => (range.value / range.den, point - count)
  | budget + 1, count =>
    match candidate? range (point - count) with
    | some n => (n, point - count)
    | none => search range point budget (count + 1)

end Shortest

/-- The digits of a positive decimal `n · 10^exponent`, without trailing zeros. -/
def DecimalText.ofScaled (n : Nat) (exponent : Int) : DecimalText :=
  let digits := Nat.toDigits 10 n
  ⟨(digits.reverse.dropWhile (· = '0')).reverse, digits.length + exponent⟩

/-- The shortest digits that read back as the magnitude of a finite number. -/
def Binary64.shortest (x : Binary64) : DecimalText :=
  if x.isZero then ⟨['0'], 1⟩
  else
    let range := Shortest.intervalOf x
    let (n, exponent) := Shortest.search range (Shortest.pointOf range.value range.den) 17 1
    .ofScaled n exponent

end Bindery.Number
