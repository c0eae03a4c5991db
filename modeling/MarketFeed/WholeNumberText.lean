/-!
A double as the nearest whole number. The double is taken apart into a whole number of powers of
two, so the rounding is exact; a half goes to the even neighbour.
-/

namespace MarketFeed

/-- The whole number nearest to a quotient, a half going to the even neighbour. -/
def roundHalfEven (numerator denominator : Nat) : Nat :=
  let quotient := numerator / denominator
  let twice := 2 * (numerator % denominator)
  if twice < denominator then quotient
  else if denominator < twice then quotient + 1
  else quotient + quotient % 2

/-- The whole number nearest to the size of a finite double. -/
def nearestWhole (x : Float) : Nat :=
  let bits := x.toBits.toNat
  let exponent := bits / Nat.pow 2 52 % Nat.pow 2 11
  let fraction := bits % Nat.pow 2 52
  if exponent = 0 then roundHalfEven fraction (Nat.pow 2 1074)
  else
    let significand := fraction + Nat.pow 2 52
    if 1075 ≤ exponent then significand * Nat.pow 2 (exponent - 1075)
    else roundHalfEven significand (Nat.pow 2 (1075 - exponent))

end MarketFeed
