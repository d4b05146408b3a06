/-!
# Patterns

A pattern describes a set of texts: characters and character sets, assertions about a place,
alternatives, repetitions, groups that remember what they matched, and look-around.  Code points
are numbers here, because a pattern may name one that no text contains.
-/

namespace Rulebook.Pattern

/-- The ways in which reading and matching can be modified. -/
inductive Flag where
  | ignoreCase
  | multiline
  | dotAll
  | verbose
  | ascii
  | unicode
  | template
  deriving DecidableEq, Repr

/-- A set of modifications. -/
abbrev Flags := List Flag

namespace Flags

/-- Whether the character classes in force are chosen by the flag. -/
def choosesAlphabet (flag : Flag) : Bool := flag == .ascii || flag == .unicode

/-- Adds a flag that is not there yet. -/
def including (flags : Flags) (flag : Flag) : Flags :=
  if flags.contains flag then flags else flags ++ [flag]

/-- The flags inside a group that adds some and removes others.  A choice of alphabet replaces the
one in force. -/
def within (flags added removed : Flags) : Flags :=
  let kept := if added.any choosesAlphabet then flags.filter (!choosesAlphabet ·) else flags
  (added.foldl including kept).filter (!removed.contains ·)

end Flags

/-- The named classes of characters. -/
inductive CharClass where
  | digit
  | space
  | word
  deriving DecidableEq, Repr

/-- A part of a character set. -/
inductive SetItem where
  | point (value : Nat)
  | interval (low high : Nat)
  | named (negated : Bool) (characters : CharClass)
  deriving DecidableEq, Repr

/-- A character set, or the set of all other characters. -/
structure CharSet where
  negated : Bool
  items : List SetItem
  deriving DecidableEq, Repr

/-- A condition on a place in the text. -/
inductive Anchor where
  /-- The start of the text, or of a line. -/
  | start
  /-- The end of the text, before a final line feed too, or of a line. -/
  | finish
  | textStart
  | textFinish
  | wordBoundary (negated : Bool)
  deriving DecidableEq, Repr

/-- The order in which the counts of a repetition are tried. -/
inductive Greed where
  /-- As often as possible first. -/
  | greedy
  /-- As rarely as possible first. -/
  | reluctant
  /-- As often as possible, and nothing else. -/
  | possessive
  deriving DecidableEq, Repr

/-- The least and the greatest number of characters that can be matched. -/
structure Width where
  least : Nat
  most : Nat
  deriving DecidableEq, Repr

/-- One piece of a pattern; a pattern is a sequence of pieces. -/
inductive Piece where
  | point (value : Nat)
  | otherThan (value : Nat)
  | anyChar
  | set (characters : CharSet)
  | anchor (condition : Anchor)
  /-- A group, which remembers its match when it has a number. -/
  | group (number : Option Nat) (added removed : Flags) (body : List Piece)
  /-- A repetition, without an upper bound when there is no `most`. -/
  | repeated (greed : Greed) (least : Nat) (most : Option Nat) (body : List Piece)
  | choice (alternatives : List (List Piece))
  /-- A part that is matched in one way only. -/
  | atomic (body : List Piece)
  /-- A condition on the text ahead of a place or behind it. -/
  | look (behind negated : Bool) (body : List Piece)
  /-- The text that a group matched, with the width of that group. -/
  | reference (group : Nat) (width : Width)
  /-- One of two parts, chosen by whether a group has matched. -/
  | conditional (group : Nat) (matched unmatched : List Piece)
  deriving Repr

/-- Why a text is not a pattern, and where it fails when that has a place. -/
structure Defect where
  reason : String
  position : Option Nat
  deriving DecidableEq, Repr

namespace Defect

/-- The text of a defect.  When the pattern has several lines, the place is also given by line
and column. -/
def text (defect : Defect) (pattern : List Char) : String :=
  match defect.position with
  | none => defect.reason
  | some position =>
      let before := pattern.take position
      let lines :=
        if pattern.contains '\n' then
          let column := (before.reverse.takeWhile (· != '\n')).length + 1
          " (line " ++ toString (before.count '\n' + 1) ++ ", column " ++ toString column ++ ")"
        else ""
      defect.reason ++ " at position " ++ toString position ++ lines

end Defect

/-- What ends the reading of a pattern. -/
inductive Failure where
  | defect (defect : Defect)
  /-- A count of repetitions beyond all bounds. -/
  | repetitionTooLarge
  /-- A count of repetitions with too many digits. -/
  | numeralTooLong (digits : Nat)
  /-- A code point beyond the range of integers that could be one. -/
  | codePointTooLarge
  /-- Global choices of both alphabets. -/
  | twoAlphabets
  /-- A look-behind too wide to be carried out. -/
  | lookBehindTooWide
  deriving DecidableEq, Repr

end Rulebook.Pattern
