/-!
# Binary floating-point numbers

The 64-bit binary format, as exact data: a number is a significand times a power of two, an
infinity, or no number at all.  Rounding an exact ratio into the format takes the nearest member
and, between two equally near ones, the one with the even significand.
-/

namespace Rulebook

/-- A member of the 64-bit binary format.  A finite member has the value
`± significand * 2 ^ exponent`. -/
inductive Binary64 where
  | nan
  | infinite (negative : Bool)
  | finite (negative : Bool) (significand : Nat) (exponent : Int)
  deriving DecidableEq, Repr

/-- The quotient of two natural numbers, rounded to the nearest integer and half-way cases to the
even neighbour. -/
def roundHalfEven (numerator denominator : Nat) : Nat :=
  let quotient := numerator / denominator
  let twice := 2 * (numerator % denominator)
  if twice < denominator then quotient
  else if denominator < twice then quotient + 1
  else quotient + quotient % 2

namespace Binary64

/-- The bits of a full significand. -/
def precision : Nat := 53

/-- The exponent of the smallest positive member. -/
def minExponent : Int := -1074

/-- The exponent of the largest finite members. -/
def maxExponent : Int := 971

/-- The zero with a sign. -/
def zero (negative : Bool) : Binary64 := finite negative 0 minExponent

/-- `numerator / denominator * 2 ^ (-exponent)` as a ratio of natural numbers. -/
def scaled (numerator denominator : Nat) (exponent : Int) : Nat × Nat :=
  if 0 ≤ exponent then (numerator, denominator * Nat.pow 2 exponent.toNat)
  else (numerator * Nat.pow 2 (-exponent).toNat, denominator)

/-- The greatest `e` with `2 ^ e ≤ numerator / denominator`, for positive arguments. -/
def binaryLog (numerator denominator : Nat) : Int :=
  let estimate : Int := (numerator.log2 : Int) - (denominator.log2 : Int)
  let (above, below) := scaled numerator denominator estimate
  if below ≤ above then estimate else estimate - 1

/-- The exponent of the members around a positive ratio. -/
def gridExponent (numerator denominator : Nat) : Int :=
  max minExponent (binaryLog numerator denominator - (precision - 1))

/-- The member nearest to `± numerator / denominator`. -/
def ofRatio (negative : Bool) (numerator denominator : Nat) : Binary64 :=
  if numerator = 0 || denominator = 0 then zero negative
  else
    let exponent := gridExponent numerator denominator
    let (above, below) := scaled numerator denominator exponent
    let significand := roundHalfEven above below
    let carried := significand = Nat.pow 2 precision
    let significand := if carried then Nat.pow 2 (precision - 1) else significand
    let exponent := if carried then exponent + 1 else exponent
    if maxExponent < exponent then infinite negative else finite negative significand exponent

/-- The member nearest to an integer. -/
def ofInt (number : Int) : Binary64 :=
  ofRatio (number < 0) number.natAbs 1

/-- The member nearest to `± digits * 10 ^ exponent`.  Exponents far outside the range of the
format are answered without forming the power. -/
def ofDecimal (negative : Bool) (digits : Nat) (exponent : Int) : Binary64 :=
  if digits = 0 then zero negative
  else
    let length : Int := (Nat.toDigits 10 digits).length
    if 310 < length + exponent then infinite negative
    else if length + exponent < -330 then zero negative
    else if 0 ≤ exponent then ofRatio negative (digits * Nat.pow 10 exponent.toNat) 1
    else ofRatio negative digits (Nat.pow 10 (-exponent).toNat)

/-- The exact value of a finite member as numerator and positive denominator; zero for the
others. -/
def ratio : Binary64 → Int × Nat
  | finite negative significand exponent =>
      let (above, below) := scaled significand 1 (-exponent)
      (if negative then -(above : Int) else above, below)
  | _ => (0, 1)

/-- The exact value of a finite member, zero for the others. -/
def toRat (number : Binary64) : Rat :=
  mkRat number.ratio.1 number.ratio.2

/-- Whether the member is a finite number. -/
def isFinite : Binary64 → Bool
  | finite .. => true
  | _ => false

/-- Whether the member is one of the two zeros. -/
def isZero : Binary64 → Bool
  | finite _ significand _ => significand == 0
  | _ => false

/-- The integer that a finite member is, when it is one. -/
def toInt? (number : Binary64) : Option Int :=
  if number.isFinite then
    let (above, below) := number.ratio
    if above % (below : Int) = 0 then some (above / below) else none
  else
    none

/-- Equality of values: the zeros are equal, and the member that is no number equals nothing. -/
def sameValue : Binary64 → Binary64 → Bool
  | nan, _ => false
  | _, nan => false
  | infinite left, infinite right => left == right
  | infinite _, finite .. => false
  | finite .., infinite _ => false
  | left@(finite ..), right@(finite ..) => left.toRat == right.toRat

end Binary64

end Rulebook
