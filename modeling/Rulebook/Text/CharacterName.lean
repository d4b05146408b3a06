import Rulebook.Text.CharacterName.Alphabets
import Rulebook.Text.CharacterName.Controls
import Rulebook.Text.CharacterName.FurtherScripts
import Rulebook.Text.CharacterName.HistoricScripts
import Rulebook.Text.CharacterName.Pictographs
import Rulebook.Text.CharacterName.Symbols
import Rulebook.Text.CodePoints
import Rulebook.Text.Split

/-!
# Names of characters

The character that a name stands for.  Most names are in tables; those of ideographs end in their
code point in hexadecimal, and those of Hangul syllables spell the sounds.

A table lists names between commas.  The hexadecimal digit in front of a name tells how many words
it shares with the start of the name before it, and these words are left out.  A name belongs to the
code point after that of the name before it, unless one is given as `point=`.
-/

namespace Rulebook.Text

/-- A place in a table of names: the last name with its code point, and the characters of the next
entry that have been passed, in reverse. -/
structure NamePlace where
  point : Nat
  words : List (List Char)
  passed : List Char
  deriving DecidableEq, Repr

namespace NamePlace

/-- The place before the first name. -/
def start : NamePlace := { point := 0, words := [], passed := [] }

/-- The place behind the entry that has been passed. -/
def behindEntry (place : NamePlace) : NamePlace :=
  let entry := place.passed.reverse
  let given := entry.takeWhile (· != '=')
  let (point, name) :=
    if given.length < entry.length then (hexValue given, entry.drop (given.length + 1))
    else (place.point + 1, entry)
  { point
    words := place.words.take (hexValue (name.take 1)) ++ Text.words (name.drop 1)
    passed := [] }

/-- The place behind a character that separates no entries. -/
def behindChar (place : NamePlace) (c : Char) : NamePlace :=
  if c = '\n' then place else { place with passed := c :: place.passed }

end NamePlace

/-- The code point of a name, given by its words, in the rest of a table. -/
def pointFrom? (name : List (List Char)) : (place : NamePlace) → List Char → Option Nat
  | place, [] =>
      let place := place.behindEntry
      if place.words = name then some place.point else none
  | place, c :: rest =>
      if c = ',' then
        let place := place.behindEntry
        if place.words = name then some place.point else pointFrom? name place rest
      else pointFrom? name (place.behindChar c) rest

/-- The tables of names. -/
def nameTables : List String :=
  [alphabetNames, symbolNames, controlNames, furtherScriptNames, pictographNames,
   historicScriptNames]

/-- The code point of a name in the tables. -/
def pointInTables? (name : List Char) : Option Nat :=
  let words := splitOnChar ' ' name
  nameTables.findSome? fun table => pointFrom? words .start table.toList

/-- Unified ideographs. -/
def unifiedIdeographs : CodePoints :=
  [(0x3400, 0x4DBF), (0x4E00, 0x9FFF), (0x20000, 0x2A6DF), (0x2A700, 0x2B738),
   (0x2B740, 0x2B81D), (0x2B820, 0x2CEA1), (0x2CEB0, 0x2EBE0), (0x30000, 0x3134A)]

/-- Whether the character is a digit of the hexadecimal numbers in names. -/
def isNameDigit (c : Char) : Bool := c.isDigit || ('A' ≤ c && c ≤ 'F')

/-- The unified ideograph with a code point in hexadecimal. -/
def unifiedIdeograph? (digits : List Char) : Option Nat :=
  if (digits.length = 4 || digits.length = 5) && digits.all isNameDigit &&
      unifiedIdeographs.contains (hexValue digits) then some (hexValue digits)
  else none

/-- Further characters whose names end in their code points. -/
def numberedNames : List (List Char × CodePoints) :=
  [("CJK COMPATIBILITY IDEOGRAPH-".toList,
      [(0xF900, 0xFA6D), (0xFA70, 0xFAD9), (0x2F800, 0x2FA1D)]),
   ("KHITAN SMALL SCRIPT CHARACTER-".toList, [(0x18B00, 0x18CD5)]),
   ("NUSHU CHARACTER-".toList, [(0x1B170, 0x1B2FB)])]

/-- The character with a name that ends in its code point. -/
def numbered? (name : List Char) : Option Nat :=
  numberedNames.findSome? fun (stem, points) => do
    let digits ← dropStart? stem name
    if digits.all isNameDigit && digits.head? != some '0' && points.contains (hexValue digits) then
      some (hexValue digits)
    else none

/-- The consonants at the start of Hangul syllables. -/
def leadingSounds : List (List Char) :=
  splitOnChar ' ' "G GG N D DD R M B BB S SS  J JJ C K T P H".toList

/-- The vowels of Hangul syllables. -/
def vowelSounds : List (List Char) :=
  splitOnChar ' ' "A AE YA YAE EO E YEO YE O WA WAE OE YO U WEO WE WI YU EU YI I".toList

/-- The consonants at the end of Hangul syllables. -/
def trailingSounds : List (List Char) :=
  splitOnChar ' '
    " G GG GS N NJ NH D L LG LM LB LS LT LP LH M B BS S SS NG J C K T P H".toList

/-- The Hangul syllable with a spelling.  Consonants and vowels have no letters in common, so there
is only one way to divide it. -/
def hangulSyllable? (spelling : List Char) : Option Nat :=
  leadingSounds.zipIdx.findSome? fun (leading, first) => do
    let rest ← dropStart? leading spelling
    vowelSounds.zipIdx.findSome? fun (vowel, second) => do
      let trailing ← dropStart? vowel rest
      let third ← trailingSounds.idxOf? trailing
      some (0xAC00 + (first * vowelSounds.length + second) * trailingSounds.length + third)

/-- The full name of a variation selector that is given by its short name. -/
def selectorName? (name : List Char) : Option (List Char) := do
  let number ← dropStart? "VS".toList name
  if number.all Char.isDigit then some ("VARIATION SELECTOR-".toList ++ number) else none

/-- The code point of the character with a name.  Letter case counts only in the names of unified
ideographs and Hangul syllables. -/
def characterNamed? (name : List Char) : Option Nat :=
  match dropStart? "HANGUL SYLLABLE ".toList name,
      dropStart? "CJK UNIFIED IDEOGRAPH-".toList name with
  | some spelling, _ => hangulSyllable? spelling
  | none, some digits => unifiedIdeograph? digits
  | none, none =>
      let name := name.map Char.toUpper
      (numbered? name).orElse fun _ => pointInTables? ((selectorName? name).getD name)

end Rulebook.Text
