import TaggedMarkup.Number.Power

/-! Numbers are the sixty-four bit binary numbers of IEEE 754, held as their bits. A finite
number is `significand * 2 ^ exponent` with its sign, and a ratio of natural numbers is
rounded to the nearest such number, a tie going to the even significand.
-/

namespace TaggedMarkup

structure Binary64 where
  bits : UInt64
deriving DecidableEq, Repr

namespace Binary64

def isNegative (x : Binary64) : Bool :=
  powerOfTwo 63 ≤ x.bits.toNat

/-- The bits without the sign bit. They order numbers of one sign by size. -/
def magnitude (x : Binary64) : Nat :=
  x.bits.toNat % powerOfTwo 63

/-- The magnitude of an infinite number; a larger magnitude is not a number. -/
def infiniteMagnitude : Nat :=
  2047 * powerOfTwo 52

/-- Whether the bits stand for no number. -/
def isNaN (x : Binary64) : Bool :=
  infiniteMagnitude < x.magnitude

/-- Whether the number is one of the two infinities. -/
def isInfinite (x : Binary64) : Bool :=
  x.magnitude = infiniteMagnitude

/-- Whether the number is one of the two zeros. -/
def isZero (x : Binary64) : Bool :=
  x.magnitude = 0

def exponentField (x : Binary64) : Nat :=
  x.magnitude / powerOfTwo 52

/-- The whole number that scales the power of two of a finite number. -/
def significand (x : Binary64) : Nat :=
  if x.exponentField = 0 then
    x.magnitude % powerOfTwo 52
  else
    x.magnitude % powerOfTwo 52 + powerOfTwo 52

/-- The power of two of a finite number. -/
def exponent (x : Binary64) : Int :=
  (max x.exponentField 1 : Int) - 1075

/-- The number with the given sign and magnitude. -/
def ofMagnitude (negative : Bool) (magnitude : Nat) : Binary64 :=
  ⟨UInt64.ofNat (if negative then powerOfTwo 63 + magnitude else magnitude)⟩

/-- The result of an operation without a number for an answer. -/
def nan : Binary64 :=
  ofMagnitude false (infiniteMagnitude + powerOfTwo 51)

def infinity (negative : Bool) : Binary64 :=
  ofMagnitude negative infiniteMagnitude

def zero (negative : Bool) : Binary64 :=
  ofMagnitude negative 0

/-- The quotient rounded to the nearest natural number, a tie going to the even one. -/
def roundedQuotient (numerator denominator : Nat) : Nat :=
  let quotient := numerator / denominator
  let twice := 2 * (numerator % denominator)
  if twice < denominator ∨ (twice = denominator ∧ quotient % 2 = 0) then
    quotient
  else
    quotient + 1

/-- The exponent at which a positive ratio has a significand of fifty-three bits, or the
least exponent when the ratio is too small for that. -/
def ratioExponent (numerator denominator : Nat) : Int :=
  let guess : Int := (numerator.log2 : Int) - (denominator.log2 : Int) - 52
  let reached :=
    powerOfTwo 52 * denominator * powerOfTwo guess.toNat ≤ numerator * powerOfTwo (-guess).toNat
  max (if reached then guess else guess - 1) (-1074)

/-- The number nearest to a ratio. The denominator is positive. -/
def ofRatio (negative : Bool) (numerator denominator : Nat) : Binary64 :=
  if numerator = 0 then
    zero negative
  else
    let exponent := ratioExponent numerator denominator
    let significand :=
      roundedQuotient (numerator * powerOfTwo (-exponent).toNat)
        (denominator * powerOfTwo exponent.toNat)
    ofMagnitude negative
      (min ((exponent + 1074).toNat * powerOfTwo 52 + significand) infiniteMagnitude)

def ofInt (value : Int) : Binary64 :=
  ofRatio (value < 0) value.natAbs 1

/-- The number nearest to `digits * 10 ^ exponent`. A decimal whose first digit stands above
the three hundred and tenth place is infinite and one that stands far below the least
number is zero, so that no large power is taken. -/
def ofDecimal (negative : Bool) (digits : Nat) (exponent : Int) : Binary64 :=
  if digits = 0 then
    zero negative
  else
    let top := ((Nat.toDigits 10 digits).length : Int) + exponent
    if 311 ≤ top then
      infinity negative
    else if top ≤ -330 then
      zero negative
    else
      ofRatio negative (digits * powerOfTen exponent.toNat) (powerOfTen (-exponent).toNat)

/-- Numeric equality: the zeros are equal and a NaN differs from everything. -/
def equal (x y : Binary64) : Bool :=
  !x.isNaN && !y.isNaN && (x == y || (x.isZero && y.isZero))

/-- Whether a number that is not a NaN is below one. -/
def isBelowOne (x : Binary64) : Bool :=
  x.isNegative || x.magnitude < 1023 * powerOfTwo 52

/-- Whether a finite number has no fraction. -/
def isWhole (x : Binary64) : Bool :=
  x.significand % powerOfTwo (-x.exponent).toNat = 0

/-- The whole part of the size of a finite number. -/
def wholePart (x : Binary64) : Nat :=
  x.significand * powerOfTwo x.exponent.toNat / powerOfTwo (-x.exponent).toNat

/-- The signed count of steps of the least exponent in a finite number. -/
def steps (x : Binary64) : Int :=
  let size : Int := x.significand * powerOfTwo (x.exponent + 1074).toNat
  if x.isNegative then -size else size

/-- The sum rounded to the nearest number. Infinities of both signs have no sum, and two
zeros have a negative sum only when both are negative. -/
def add (x y : Binary64) : Binary64 :=
  if x.isNaN || y.isNaN then
    nan
  else if x.isInfinite then
    if y.isInfinite && x.isNegative != y.isNegative then nan else x
  else if y.isInfinite then
    y
  else
    let sum := x.steps + y.steps
    if sum = 0 then
      zero (x.isNegative && y.isNegative)
    else
      ofRatio (sum < 0) sum.natAbs (powerOfTwo 1074)

/-- The product of two finite numbers rounded to the nearest number. -/
def mul (x y : Binary64) : Binary64 :=
  let exponent := x.exponent + y.exponent
  ofRatio (x.isNegative != y.isNegative)
    (x.significand * y.significand * powerOfTwo exponent.toNat) (powerOfTwo (-exponent).toNat)

/-- The quotient of two finite numbers rounded to the nearest number. The divisor is not
zero. -/
def div (x y : Binary64) : Binary64 :=
  let exponent := x.exponent - y.exponent
  ofRatio (x.isNegative != y.isNegative) (x.significand * powerOfTwo exponent.toNat)
    (y.significand * powerOfTwo (-exponent).toNat)

end Binary64

end TaggedMarkup
