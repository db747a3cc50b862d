/-! The float nearest to a fraction of whole numbers, in exact arithmetic. -/
namespace CqlSchema.Decimal

/-- The quotient rounded to a whole number, a half to the even neighbour. -/
def roundDiv (numerator denominator : Nat) : Nat :=
  let below := numerator / denominator
  let twice := 2 * (numerator % denominator)
  if twice < denominator || (twice == denominator && below % 2 == 0) then below else below + 1

def infiniteBits : Nat := 0x7ff0000000000000

/-- The bits of the float nearest to a fraction. Its exponent is the least that leaves the quotient
below `2 ^ 53`, and not below that of the smallest float. A quotient that is rounded up to `2 ^ 53`
carries over into the bits of the exponent. -/
def nearestBits (numerator denominator : Nat) : Nat :=
  if numerator = 0 then 0
  else
    let order : Int := (numerator.log2 : Int) - denominator.log2
    let reaches := denominator * Nat.pow 2 order.toNat ≤ numerator * Nat.pow 2 (-order).toNat
    let exponent := max (if reaches then order - 52 else order - 53) (-1074)
    let significand :=
      roundDiv (numerator * Nat.pow 2 (-exponent).toNat) (denominator * Nat.pow 2 exponent.toNat)
    min (significand + (exponent + 1074).toNat * 0x10000000000000) infiniteBits

/-- The float nearest to `digits · 10 ^ exponent`. A power of ten far outside the range of floats is
not worked out. -/
def nearest (negative : Bool) (digits : Nat) (exponent : Int) : Float :=
  let order := exponent + (Nat.toDigits 10 digits).length
  let bits :=
    if digits = 0 || order < -400 then 0
    else if 400 < order then infiniteBits
    else nearestBits (digits * Nat.pow 10 exponent.toNat) (Nat.pow 10 (-exponent).toNat)
  Float.ofBits (UInt64.ofNat (if negative then 0x8000000000000000 + bits else bits))

end CqlSchema.Decimal
