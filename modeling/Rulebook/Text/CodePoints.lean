/-!
# Sets of code points

Intervals of code points, and the hexadecimal notation the character tables are written in.
-/

namespace Rulebook.Text

/-- The parts of a text between the occurrences of a character, empty parts included. -/
def splitOnChar (separator : Char) : List Char → List (List Char)
  | [] => [[]]
  | c :: rest =>
      if c = separator then [] :: splitOnChar separator rest
      else match splitOnChar separator rest with
        | [] => [[c]]
        | part :: parts => (c :: part) :: parts

/-- The parts of a text between spaces and line ends, empty parts left out. -/
def words (text : List Char) : List (List Char) :=
  (splitOnChar ' ' (text.map fun c => if c = '\n' then ' ' else c)).filter (!·.isEmpty)

/-- The value of a hexadecimal digit, `0` for any other character. -/
def hexDigit (c : Char) : Nat :=
  if c.isDigit then c.toNat - '0'.toNat
  else if 'a' ≤ c && c ≤ 'f' then c.toNat - 'a'.toNat + 10
  else if 'A' ≤ c && c ≤ 'F' then c.toNat - 'A'.toNat + 10
  else 0

/-- Whether the character is a hexadecimal digit. -/
def isHexDigit (c : Char) : Bool :=
  c.isDigit || ('a' ≤ c && c ≤ 'f') || ('A' ≤ c && c ≤ 'F')

/-- The number a text of hexadecimal digits stands for. -/
def hexValue (digits : List Char) : Nat :=
  digits.foldl (fun value c => 16 * value + hexDigit c) 0

/-- A set of code points, as inclusive intervals in ascending order. -/
abbrev CodePoints := List (Nat × Nat)

namespace CodePoints

/-- Membership of a code point. -/
def contains (set : CodePoints) (point : Nat) : Bool :=
  set.any fun (first, last) => first ≤ point && point ≤ last

/-- Reads a set written as hexadecimal points and intervals, such as `41-5a 5f`. -/
def ofHex (text : String) : CodePoints :=
  (words text.toList).map fun interval =>
    let first := interval.takeWhile (· != '-')
    let last := interval.drop (first.length + 1)
    (hexValue first, if last.isEmpty then hexValue first else hexValue last)

end CodePoints

end Rulebook.Text
