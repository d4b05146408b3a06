import Rulebook.Fault
import Rulebook.Text.CodePoints

/-!
# Paths

A path leads to a value inside a document: the keys along the way, joined by dots.  A key that is
followed by `[]` is marked; the value under it is a sequence that a rule takes element by element.
-/

namespace Rulebook

/-- One step of a path. -/
structure Segment where
  key : String
  isMarked : Bool := false
  deriving DecidableEq, Repr

/-- The mark of a step into a sequence. -/
def arrayMarker : List Char := ['[', ']']

/-- The marker as a text. -/
def arrayMarkerText : String := String.ofList arrayMarker

namespace Segment

/-- The written form of a step. -/
def chars (segment : Segment) : List Char :=
  segment.key.toList ++ if segment.isMarked then arrayMarker else []

/-- Reads one part of a path between dots. -/
def ofChars (part : List Char) : Segment :=
  if part.drop (part.length - 2) = arrayMarker then
    { key := String.ofList (part.take (part.length - 2)), isMarked := true }
  else
    { key := String.ofList part }

/-- The same step without a mark. -/
def unmarked (segment : Segment) : Segment := { key := segment.key }

end Segment

/-- The steps of a path. -/
abbrev Path := List Segment

namespace Path

/-- Reads the written form of a path.  Empty parts are dropped. -/
def ofChars (text : List Char) : Path :=
  ((Text.splitOnChar '.' text).filter (!·.isEmpty)).map Segment.ofChars

/-- Reads the written form of a path. -/
def parse (text : String) : Path := ofChars text.toList

/-- The written form of a path, as characters. -/
def chars (path : Path) : List Char :=
  ['.'].intercalate (path.map Segment.chars)

/-- The written form of a path. -/
def format (path : Path) : String := String.ofList path.chars

/-- Whether no step is marked. -/
def isConcrete (path : Path) : Bool := !path.any Segment.isMarked

/-- The path without its marks. -/
def stripped (path : Path) : Path := path.map Segment.unmarked

/-- The steps up to the first marked one, without marks, and the steps behind it when there is a
marked one. -/
def splitAtMarker : Path → Path × Option Path
  | [] => ([], none)
  | segment :: path =>
      if segment.isMarked then ([segment.unmarked], some path)
      else
        let (front, rest) := splitAtMarker path
        (segment :: front, rest)

/-- The written path that a value stands for: nothing for an empty value, the plain form for any
other. -/
def textOf (value : Value) : Except Fault String :=
  if value.isTruthy then value.plain else .ok ""

/-- The path that a value stands for. -/
def ofValue (value : Value) : Except Fault Path :=
  (textOf value).map parse

end Path

end Rulebook
