import Rulebook.Number.Binary64

/-!
# Numbers

Integers of any size and floating-point numbers side by side, compared by their exact values.
-/

namespace Rulebook

/-- An integer or a floating-point number. -/
inductive Number where
  | integer (value : Int)
  | real (value : Binary64)
  deriving DecidableEq, Repr

namespace Number

/-- The exact value; zero for what is no finite number. -/
def toRat : Number → Rat
  | integer value => value
  | real value => value.toRat

/-- Equality of values. -/
def sameValue : Number → Number → Bool
  | integer left, integer right => left == right
  | real left, real right => left.sameValue right
  | integer left, real right => right.isFinite && (left : Rat) == right.toRat
  | real left, integer right => left.isFinite && left.toRat == (right : Rat)

/-- Whether the first of two finite numbers is the smaller one. -/
def less (left right : Number) : Bool := left.toRat < right.toRat

end Number

end Rulebook
