/-!
Numbers of the 64-bit binary format: the number nearest to a decimal, and the exact value of a
finite number as a whole multiple of a power of two.
-/

namespace CodeMarkup.Decimal

/-- A number of the 64-bit binary format, given by its bits. -/
structure Binary64 where
  bits : UInt64
  deriving DecidableEq, Repr

namespace Binary64

/-- The weight of the sign bit, `2 ^ 63`. -/
def signWeight : Nat := 0x8000000000000000

/-- How many fractions there are for each exponent, `2 ^ 52`. -/
def fractionCount : Nat := 0x10000000000000

/-- The size of an infinity: the greatest exponent and no fraction. -/
def infiniteMagnitude : Nat := 0x7FF0000000000000

/-- The size without the sign: the exponent field above the fraction of 52 bits. -/
def magnitude (x : Binary64) : Nat := x.bits.toNat % signWeight

def isNegative (x : Binary64) : Bool := signWeight ≤ x.bits.toNat

def isInfinite (x : Binary64) : Bool := x.magnitude == infiniteMagnitude

def isNaN (x : Binary64) : Bool := infiniteMagnitude < x.magnitude

def isZero (x : Binary64) : Bool := x.magnitude == 0

/-- A finite number without its sign is `significand * 2 ^ exponent`. -/
def significand (x : Binary64) : Nat :=
  let fraction := x.magnitude % fractionCount
  if x.magnitude < fractionCount then fraction else fractionCount + fraction

/-- The power of two that goes with `significand`. -/
def exponent (x : Binary64) : Int :=
  if x.magnitude < fractionCount then -1074 else (x.magnitude / fractionCount : Nat) - 1075

/-- The number with this sign and size. -/
def ofMagnitude (negative : Bool) (magnitude : Nat) : Binary64 :=
  ⟨UInt64.ofNat ((if negative then signWeight else 0) + magnitude)⟩

def infinity (negative : Bool) : Binary64 := ofMagnitude negative infiniteMagnitude

def notANumber : Binary64 := ofMagnitude false 0x7FF8000000000000

end Binary64

/-- A quotient rounded to the nearest whole number, a tie to the even one. -/
def roundQuotient (numerator denominator : Nat) : Nat :=
  let quotient := numerator / denominator
  let twice := 2 * (numerator % denominator)
  if denominator < twice ∨ (twice = denominator ∧ quotient % 2 = 1) then quotient + 1 else quotient

/-- The fraction `numerator / denominator * 2 ^ exponent` with the power of two moved into it. -/
def scaleByTwo (numerator denominator : Nat) (exponent : Int) : Nat × Nat :=
  if 0 ≤ exponent then (numerator <<< exponent.toNat, denominator)
  else (numerator, denominator <<< (-exponent).toNat)

/-- The size, as in `Binary64.magnitude`, of the number nearest to a positive fraction. The fraction
is counted in units of the last of 53 places; the smallest numbers keep the unit `2 ^ -1074`. A count
of `2 ^ 53` after rounding carries into the exponent by plain addition, and past the largest number
stands infinity. -/
def magnitudeOfFraction (numerator denominator : Nat) : Nat :=
  let guess : Int := (Nat.log2 numerator : Int) - Nat.log2 denominator
  let (n, d) := scaleByTwo numerator denominator (-guess)
  let leading := if n < d then guess - 1 else guess
  let unit := max (leading - 52) (-1074)
  let (n, d) := scaleByTwo numerator denominator (-unit)
  let count := roundQuotient n d
  min ((unit + 1074).toNat * Binary64.fractionCount + count) Binary64.infiniteMagnitude

/-- The number nearest to `digits * 10 ^ exponent`. Sizes that lie beyond all numbers of the format
are decided by the place of the first digit. -/
def Binary64.ofDecimal (negative : Bool) (digits : Nat) (exponent : Int) : Binary64 :=
  let places : Int := (toString digits).length + exponent
  if digits = 0 ∨ places < -400 then .ofMagnitude negative 0
  else if 400 < places then .infinity negative
  else if 0 ≤ exponent then
    .ofMagnitude negative (magnitudeOfFraction (digits * Nat.pow 10 exponent.toNat) 1)
  else .ofMagnitude negative (magnitudeOfFraction digits (Nat.pow 10 (-exponent).toNat))

end CodeMarkup.Decimal
