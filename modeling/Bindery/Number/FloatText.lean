import Bindery.Number.Shortest

/-!
# The written form of a double

Numbers are written with the fewest digits that read back, positionally from `0.0001` up to below
`10^16` and with an exponent of at least two digits elsewhere. A positional number always shows a
fraction, so that it reads as a double and not as an integer.
-/
namespace Bindery.Number

/-- Which numbers are written positionally, by the place of their decimal point. -/
def isPositional (point : Int) : Bool := -4 < point ∧ point ≤ 16

/-- The digits around the decimal point, padded with zeros on the side that lacks digits. -/
def positional (text : DecimalText) : List Char :=
  let count : Int := text.digits.length
  if text.point ≤ 0 then
    '0' :: '.' :: List.replicate (-text.point).toNat '0' ++ text.digits
  else if count ≤ text.point then
    text.digits ++ List.replicate (text.point - count).toNat '0' ++ ['.', '0']
  else
    text.digits.take text.point.toNat ++ '.' :: text.digits.drop text.point.toNat

/-- One digit, the others after a point, and the exponent with its sign. -/
def scientific (text : DecimalText) : List Char :=
  let mantissa := match text.digits with
    | [] => []
    | [d] => [d]
    | d :: rest => d :: '.' :: rest
  let exponent := text.point - 1
  let digits := Nat.toDigits 10 exponent.natAbs
  mantissa ++ 'e' :: (if exponent < 0 then '-' else '+') ::
    (if digits.length < 2 then '0' :: digits else digits)

def Binary64.text (x : Binary64) : String :=
  if x.isNaN then "nan"
  else
    let sign := if x.isNegative then ['-'] else []
    if x.isInfinite then String.ofList (sign ++ ['i', 'n', 'f'])
    else
      let digits := x.shortest
      String.ofList (sign ++ if isPositional digits.point then positional digits else scientific digits)

end Bindery.Number
