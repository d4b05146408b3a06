import Rulebook.Pattern.Syntax
import Rulebook.Text.Blank
import Rulebook.Text.Case
import Rulebook.Text.Digit
import Rulebook.Text.Letter

/-!
# Characters of a pattern

Which characters of a text a character or a character set of a pattern takes, with and without
regard to case, in the ASCII alphabet and in that of Unicode.
-/

namespace Rulebook.Pattern

/-- How characters are compared. -/
structure Alphabet where
  ascii : Bool
  ignoreCase : Bool
  deriving DecidableEq, Repr

namespace Alphabet

/-- The comparison that flags choose. -/
def ofFlags (flags : Flags) : Alphabet :=
  { ascii := !flags.contains .unicode, ignoreCase := flags.contains .ignoreCase }

/-- The lower case of a code point. -/
def fold (alphabet : Alphabet) (point : Nat) : Nat :=
  if alphabet.ascii then (if 0x41 ≤ point && point ≤ 0x5A then point + 0x20 else point)
  else Text.foldPoint point

/-- Whether some code point of an interval has another case. -/
def hasCased (alphabet : Alphabet) (low high : Nat) : Bool :=
  if alphabet.ascii then (low ≤ 0x5A && 0x41 ≤ high) || (low ≤ 0x7A && 0x61 ≤ high)
  else Text.hasCasedPoint low high

/-- The lower case code points that count as the same as a given one. -/
def relatives (alphabet : Alphabet) (point : Nat) : List Nat :=
  if alphabet.ascii then [point] else Text.caseRelatives point

/-- The code points that count as the same as a lower case one. -/
def variants (alphabet : Alphabet) (point : Nat) : List Nat :=
  if alphabet.ascii then
    (if alphabet.fold point = point then [point] else []) ++
      if 0x61 ≤ point && point ≤ 0x7A then [point - 0x20] else []
  else Text.caseVariants point

/-- Whether a word may contain the character. -/
def isWord (alphabet : Alphabet) (c : Char) : Bool :=
  if alphabet.ascii then Text.isAsciiWordChar c else Text.isWordChar c

/-- Whether a named class has the character. -/
def classHas (alphabet : Alphabet) (c : Char) : CharClass → Bool
  | .digit => if alphabet.ascii then c.isDigit else Text.isDecimal c
  | .space => if alphabet.ascii then Text.isAsciiBlank c else Text.isBlank c
  | .word => alphabet.isWord c

/-- Whether a character of a pattern takes a character of a text. -/
def takesPoint (alphabet : Alphabet) (value : Nat) (c : Char) : Bool :=
  if alphabet.ignoreCase && alphabet.hasCased value value then
    (alphabet.relatives (alphabet.fold value)).contains (alphabet.fold c.toNat)
  else
    value == c.toNat

/-- The last code point of the basic plane. -/
def basicLast : Nat := 0xFFFF

/-- Whether comparing with a part of a set needs the lower case of a character. -/
def dependsOnCase (alphabet : Alphabet) : SetItem → Bool
  | .point value => basicLast < value || alphabet.hasCased value value
  | .interval low high => basicLast < high || alphabet.hasCased low high
  | .named .. => false

/-- Whether a part of a set has a character, with regard to case. -/
def itemHas (alphabet : Alphabet) (c : Char) : SetItem → Bool
  | .point value => value == c.toNat
  | .interval low high => low ≤ c.toNat && c.toNat ≤ high
  | .named negated characters => alphabet.classHas c characters != negated

/-- Whether a part of a set has a lower case character, without regard to case.  Beyond the basic
plane a single character is compared as it is written, and an interval with both cases. -/
def itemHasFolded (alphabet : Alphabet) (point : Nat) : SetItem → Bool
  | .point value =>
      if basicLast < value then value == point
      else (alphabet.relatives (alphabet.fold value)).contains point
  | .interval low high =>
      let has (point : Nat) : Bool := low ≤ point && point ≤ high
      ((alphabet.variants point).any fun variant => variant ≤ basicLast && has variant) ||
        (basicLast < high && (has point || has (Text.raisePoint point)))
  | .named negated characters => alphabet.classHas (Char.ofNat point) characters != negated

/-- Whether a character set takes a character of a text. -/
def takesSet (alphabet : Alphabet) (set : CharSet) (c : Char) : Bool :=
  let found :=
    if alphabet.ignoreCase && set.items.any alphabet.dependsOnCase then
      set.items.any (alphabet.itemHasFolded (alphabet.fold c.toNat))
    else
      set.items.any (alphabet.itemHas c)
  found != set.negated

end Alphabet

end Rulebook.Pattern
