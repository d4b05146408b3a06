import Rulebook.Number.Binary64

/-!
# Shortest decimals

The decimal text of a floating-point number: the fewest significant digits that read back as the
number and, of the decimals with so few digits, the one nearest to it.  The digits are found by
exact arithmetic on the interval of reals that round to the number; a layout then decides where
positional notation ends.
-/

namespace Rulebook

/-- Significant digits, the first one not zero, with the power of ten of the first digit. -/
structure Digits where
  digits : List Char
  exponent : Int
  deriving DecidableEq, Repr

namespace Binary64

/-- A positive number and the ends of the interval that rounds to it, over one denominator. -/
structure Interval where
  below : Nat
  value : Nat
  above : Nat
  denominator : Nat
  /-- Whether the ends themselves round to the number. -/
  closed : Bool
  deriving DecidableEq, Repr

/-- The interval of reals that round to `significand * 2 ^ exponent`.  Just above a power of two
the lower gap is half as wide. -/
def interval (significand : Nat) (exponent : Int) : Interval :=
  let narrow := significand = Nat.pow 2 (precision - 1) && minExponent < exponent
  let (unit, denominator) := scaled 1 1 (2 - exponent)
  { below := (4 * significand - if narrow then 1 else 2) * unit
    value := 4 * significand * unit
    above := (4 * significand + 2) * unit
    denominator := denominator
    closed := significand % 2 == 0 }

/-- `numerator / denominator` against `10 ^ exponent`. -/
def atLeastPower (numerator denominator : Nat) (exponent : Int) : Bool :=
  if 0 ≤ exponent then denominator * Nat.pow 10 exponent.toNat ≤ numerator
  else denominator ≤ numerator * Nat.pow 10 (-exponent).toNat

/-- The greatest `e` with `10 ^ e ≤ numerator / denominator`, for positive arguments. -/
def decimalLog (numerator denominator : Nat) : Int :=
  let estimate := (binaryLog numerator denominator * 30103) / 100000
  if !atLeastPower numerator denominator estimate then estimate - 1
  else if atLeastPower numerator denominator (estimate + 1) then estimate + 1
  else estimate

/-- Whether the decimal `candidate * 10 ^ exponent` lies in the interval. -/
def Interval.has (span : Interval) (candidate : Nat) (exponent : Int) : Bool :=
  let point := candidate * span.denominator * Nat.pow 10 exponent.toNat
  let scale := Nat.pow 10 (-exponent).toNat
  let low := span.below * scale
  let high := span.above * scale
  if span.closed then low ≤ point && point ≤ high else low < point && point < high

/-- The decimal of the grid `10 ^ exponent` that is nearest to the number among those that read
back as it; of two equally near ones, the even one. -/
def Interval.nearest? (span : Interval) (exponent : Int) : Option Nat :=
  let numerator := span.value * Nat.pow 10 (-exponent).toNat
  let denominator := span.denominator * Nat.pow 10 exponent.toNat
  let lower := numerator / denominator
  match span.has lower exponent, span.has (lower + 1) exponent with
  | true, true => some (roundHalfEven numerator denominator)
  | true, false => some lower
  | false, true => some (lower + 1)
  | false, false => none

/-- Tries the grids of `count`, `count + 1`, … digits, `steps` of them. -/
def Interval.search (span : Interval) (leading : Int) : (steps count : Nat) → Nat × Int
  | 0, count => (span.value / span.denominator, leading + 1 - count)
  | steps + 1, count =>
      let exponent := leading + 1 - count
      match span.nearest? exponent with
      | some decimal => (decimal, exponent)
      | none => span.search leading steps (count + 1)

/-- The shortest digits of the positive number `significand * 2 ^ exponent`.  Seventeen digits
always suffice. -/
def shortest (significand : Nat) (exponent : Int) : Digits :=
  let span := interval significand exponent
  let leading := decimalLog span.value span.denominator
  let (decimal, power) := span.search leading 17 1
  let digits := Nat.toDigits 10 decimal
  let significant := (digits.reverse.dropWhile (· == '0')).reverse
  { digits := significant, exponent := power + (digits.length - 1 : Nat) }

end Binary64

/-- How digits are laid out as text. -/
structure NumberLayout where
  /-- The least power of ten of the first digit that is written positionally. -/
  positionalFrom : Int
  /-- The first power of ten beyond those written positionally. -/
  positionalBelow : Int
  /-- The least number of digits of a written exponent. -/
  exponentWidth : Nat
  notANumber : String
  infinity : String
  deriving DecidableEq, Repr

namespace NumberLayout

/-- An integer between a sign and its digits, padded to a width. -/
def exponentText (layout : NumberLayout) (exponent : Int) : List Char :=
  let digits := Nat.toDigits 10 exponent.natAbs
  (if exponent < 0 then '-' else '+') ::
    List.replicate (layout.exponentWidth - digits.length) '0' ++ digits

/-- The text of a positive number with the given digits.  A positional text always has a
fraction. -/
def positive (layout : NumberLayout) (number : Digits) : List Char :=
  let { digits, exponent } := number
  if layout.positionalFrom ≤ exponent && exponent < layout.positionalBelow then
    if exponent < 0 then
      '0' :: '.' :: List.replicate (-exponent - 1).toNat '0' ++ digits
    else
      let whole := exponent.toNat + 1
      let fraction := digits.drop whole
      digits.take whole ++ List.replicate (whole - digits.length) '0' ++
        '.' :: if fraction.isEmpty then ['0'] else fraction
  else
    match digits with
    | [] => []
    | [digit] => digit :: 'e' :: layout.exponentText exponent
    | digit :: fraction => digit :: '.' :: fraction ++ 'e' :: layout.exponentText exponent

/-- The text of a floating-point number. -/
def render (layout : NumberLayout) : Binary64 → String
  | .nan => layout.notANumber
  | .infinite negative => if negative then "-" ++ layout.infinity else layout.infinity
  | .finite negative significand exponent =>
      let text :=
        if significand = 0 then ['0', '.', '0']
        else layout.positive (Binary64.shortest significand exponent)
      String.ofList (if negative then '-' :: text else text)

/-- Numbers in messages: positional from a ten-thousandth up to sixteen whole digits. -/
def message : NumberLayout :=
  { positionalFrom := -4, positionalBelow := 16, exponentWidth := 2
    notANumber := "nan", infinity := "inf" }

/-- Numbers in JSON text differ in the words for what is no finite number. -/
def json : NumberLayout :=
  { message with notANumber := "NaN", infinity := "Infinity" }

end NumberLayout

end Rulebook
