import PaddleLink.Decimal.Notation

namespace PaddleLink.Decimal

def powerOfTen (n : Nat) : Float :=
  Float.ofScientific 1 false n

/-- Divides `x` by `10 ^ n`; beyond `308` places it goes down by `1e308` at a time until nothing is left. -/
def divide (x : Float) (n : Nat) : Float :=
  if n ≤ 308 then x / powerOfTen n
  else if x == 0 then x
  else divide (x / powerOfTen 308) (n - 308)
termination_by n

def toFloat? (significand : Nat) (exponent : Int) : Option Float :=
  let x := Float.ofNat significand
  if exponent < 0 then some (divide x exponent.natAbs)
  else if exponent ≤ 308 then
    let y := x * powerOfTen exponent.toNat
    if y.isInf then none else some y
  else if significand = 0 then some x
  else none

/-- Whether the nearest binary64 number of `significand * 10 ^ exponent` is infinite. The halfway point
above the largest finite number is `(2 ^ 54 - 1) * 2 ^ 970`; powers far from it are not computed. -/
def isTooLarge (significand : Nat) (exponent : Int) : Bool :=
  let places := exponent + (digits significand).length
  significand ≠ 0 && 300 < places
    && (310 < places || compareScaled significand exponent 0x3FFFFFFFFFFFFF 970 != .lt)

end PaddleLink.Decimal
