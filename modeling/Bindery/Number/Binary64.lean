/-!
# Double precision numbers as data

A double is its sixty-four bits. Every operation the library needs (rounding a ratio, reading a
decimal, telling integers from fractions) is exact arithmetic on natural numbers, so nothing here
depends on the floating point unit.
-/
namespace Bindery.Number

/-- A double precision number, kept as the bits of its interchange format. -/
structure Binary64 where
  bits : UInt64
  deriving DecidableEq, Repr, Inhabited

namespace Binary64

/-- Set for negative numbers, the negative zero included. -/
def isNegative (x : Binary64) : Bool := x.bits.toNat / Nat.pow 2 63 = 1

/-- The biased exponent, eleven bits wide. -/
def exponentField (x : Binary64) : Nat := x.bits.toNat / Nat.pow 2 52 % Nat.pow 2 11

/-- The fifty-two fraction bits. -/
def fraction (x : Binary64) : Nat := x.bits.toNat % Nat.pow 2 52

def isNaN (x : Binary64) : Bool := x.exponentField = 2047 && x.fraction != 0

def isInfinite (x : Binary64) : Bool := x.exponentField = 2047 && x.fraction = 0

/-- The number with the given sign and the magnitude bits below the sign. -/
def ofMagnitude (negative : Bool) (magnitude : Nat) : Binary64 :=
  ⟨UInt64.ofNat ((if negative then Nat.pow 2 63 else 0) + magnitude)⟩

def infinity (negative : Bool) : Binary64 := ofMagnitude negative (2047 * Nat.pow 2 52)

def nan : Binary64 := ofMagnitude false (2047 * Nat.pow 2 52 + Nat.pow 2 51)

/-- The integer significand of a finite number. -/
def significand (x : Binary64) : Nat :=
  if x.exponentField = 0 then x.fraction else Nat.pow 2 52 + x.fraction

/-- The power of two that one unit of the significand counts. -/
def scale (x : Binary64) : Int :=
  if x.exponentField = 0 then -1074 else (x.exponentField : Int) - 1075

def isZero (x : Binary64) : Bool := x.exponentField = 0 && x.fraction = 0

/-- The magnitude of a finite number as a ratio of natural numbers. -/
def ratio (x : Binary64) : Nat × Nat :=
  if 0 ≤ x.scale then (x.significand * Nat.pow 2 x.scale.toNat, 1)
  else (x.significand, Nat.pow 2 (-x.scale).toNat)

/-- The nearest integer to a quotient; a half goes to the even neighbour. -/
def roundQuotient (num den : Nat) : Nat :=
  let quotient := num / den
  let twice := 2 * (num % den)
  if den < twice ∨ (twice = den ∧ quotient % 2 = 1) then quotient + 1 else quotient

/-- The quotient of `num · 2^(-shift)` by `den`, rounded. -/
private def scaledQuotient (num den : Nat) (shift : Int) : Nat :=
  if 0 ≤ shift then roundQuotient num (den * Nat.pow 2 shift.toNat)
  else roundQuotient (num * Nat.pow 2 (-shift).toNat) den

/-- The exponent at which the quotient of two positive numbers has fifty-three bits, bounded below
by the exponent of the subnormal numbers. -/
private def unitExponent (num den : Nat) : Int :=
  let guess := (num.log2 : Int) - den.log2 - 52
  let fits : Bool :=
    if 0 ≤ guess then den * Nat.pow 2 guess.toNat * Nat.pow 2 52 ≤ num
    else den * Nat.pow 2 52 ≤ num * Nat.pow 2 (-guess).toNat
  max (if fits then guess else guess - 1) (-1074)

/-- The double nearest to `num / den`; a tie goes to the even significand, and what is too large
becomes infinite. -/
def ofRatio (negative : Bool) (num den : Nat) : Binary64 :=
  if num = 0 then ofMagnitude negative 0
  else
    let exponent := unitExponent num den
    let unit := scaledQuotient num den exponent
    let magnitude :=
      if unit < Nat.pow 2 52 then unit else (exponent + 1074).toNat * Nat.pow 2 52 + unit
    if 2047 * Nat.pow 2 52 ≤ magnitude then infinity negative else ofMagnitude negative magnitude

/-- The double nearest to `digits · 10^exponent`. Exponents far outside the range of doubles are
answered at once. -/
def ofDecimal (negative : Bool) (digits : Nat) (exponent : Int) : Binary64 :=
  if digits = 0 then ofMagnitude negative 0
  else
    let size : Int := (Nat.toDigits 10 digits).length
    if 400 < size + exponent then infinity negative
    else if size + exponent < -400 then ofMagnitude negative 0
    else if 0 ≤ exponent then ofRatio negative (digits * Nat.pow 10 exponent.toNat) 1
    else ofRatio negative digits (Nat.pow 10 (-exponent).toNat)

/-- The double nearest to an integer. -/
def ofInt (n : Int) : Binary64 := ofRatio (n < 0) n.natAbs 1

/-- A finite number without a fractional part, as an integer. -/
def toInt? (x : Binary64) : Option Int :=
  if x.exponentField = 2047 then none
  else
    let (num, den) := x.ratio
    if num % den = 0 then
      let magnitude : Int := (num / den : Nat)
      some (if x.isNegative then -magnitude else magnitude)
    else none

/-- Strictly above zero; not a number is above nothing. -/
def isPositive (x : Binary64) : Bool := !x.isNegative && !x.isNaN && !x.isZero

/-- The signed numerator of a finite number over the common denominator `2^1074`. -/
private def scaled (x : Binary64) : Int :=
  let magnitude : Int := (x.significand * Nat.pow 2 (x.scale + 1074).toNat : Nat)
  if x.isNegative then -magnitude else magnitude

/-- The rounded sum of two numbers. Infinities of both signs have no sum. -/
def add (x y : Binary64) : Binary64 :=
  if x.isNaN || y.isNaN then nan
  else if x.isInfinite then if y.isInfinite && x.isNegative != y.isNegative then nan else x
  else if y.isInfinite then y
  else
    let sum := x.scaled + y.scaled
    ofRatio (sum < 0) sum.natAbs (Nat.pow 2 1074)

/-- The rounded product of two numbers. Zero and an infinity have none. -/
def mul (x y : Binary64) : Binary64 :=
  let negative := x.isNegative != y.isNegative
  if x.isNaN || y.isNaN then nan
  else if x.isInfinite || y.isInfinite then if x.isZero || y.isZero then nan else infinity negative
  else
    let (xn, xd) := x.ratio
    let (yn, yd) := y.ratio
    ofRatio negative (xn * yn) (xd * yd)

end Binary64

end Bindery.Number
