import Bindery.Text.CharTable

/-!
# Decimal digits of every script
-/
namespace Bindery.Text

/-- The digits beyond ASCII, ten to a script. -/
def digitSpans : CharSet := CharSet.ofText
  "660+a 6f0+a 7c0+a 966+a 9e6+a a66+a ae6+a b66+a be6+a c66+a ce6+a d66+a de6+a e50+a ed0+a
    f20+a 1040+a 1090+a 17e0+a 1810+a 1946+a 19d0+a 1a80+a 1a90+a 1b50+a 1bb0+a 1c40+a 1c50+a
    a620+a a8d0+a a900+a a9d0+a a9f0+a aa50+a abf0+a ff10+a 104a0+a 10d30+a 11066+a 110f0+a
    11136+a 111d0+a 112f0+a 11450+a 114d0+a 11650+a 116c0+a 11730+a 118e0+a 11950+a 11c50+a
    11d50+a 11da0+a 16a60+a 16ac0+a 16b50+a 1d7ce+32 1e140+a 1e2f0+a 1e950+a 1fbf0+a"

/-- The value of a decimal digit of some script. -/
def digitValue? (c : Char) : Option Nat :=
  if c.toNat < 128 then if c.isDigit then some (c.toNat - 48) else none
  else (digitSpans.span? c).map fun span => (c.toNat - span.first) % 10

/-- The number that ASCII digits form. -/
def decimalNumber (digits : List Char) : Nat := digits.foldl (fun n c => 10 * n + (c.toNat - 48)) 0

def isDecimalDigit (c : Char) : Bool := (digitValue? c).isSome

end Bindery.Text
