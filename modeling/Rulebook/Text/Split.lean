import Rulebook.Text.Blank
import Rulebook.Text.CodePoints

/-!
# Splitting and searching texts

Occurrences of one text in another and the parts of a text between them.  Splitting looks for the
separator from the left and goes on behind it, so that occurrences do not overlap.
-/

namespace Rulebook.Text

/-- The rest of a text behind a given beginning, when it has that beginning. -/
def dropStart? : List Char → List Char → Option (List Char)
  | [], text => some text
  | _ :: _, [] => none
  | c :: start, d :: text => if c = d then dropStart? start text else none

/-- Whether `part` occurs in the text. -/
def containsPart (part : List Char) : List Char → Bool
  | [] => part.isEmpty
  | c :: text => (dropStart? part (c :: text)).isSome || containsPart part text

/-- Splits at a non-empty separator.  `pending` holds the part under way in reverse, and `skip`
counts the characters of a separator just found that are still to be passed. -/
def splitFrom (separator : List Char) : (skip : Nat) → (pending : List Char) → List Char →
    List (List Char)
  | _, pending, [] => [pending.reverse]
  | skip + 1, pending, _ :: text => splitFrom separator skip pending text
  | 0, pending, c :: text =>
      match dropStart? separator (c :: text) with
      | some _ => pending.reverse :: splitFrom separator (separator.length - 1) [] text
      | none => splitFrom separator 0 (c :: pending) text

/-- The parts of a text between the occurrences of a separator, `none` for the empty separator. -/
def splitOn? (separator text : List Char) : Option (List (List Char)) :=
  if separator.isEmpty then none else some (splitFrom separator 0 [] text)

/-- The words of the rest of a text; `pending` holds the word under way in reverse. -/
def splitBlanksFrom (pending : List Char) : List Char → List (List Char)
  | [] => if pending.isEmpty then [] else [pending.reverse]
  | c :: rest =>
      if isBlank c then
        if pending.isEmpty then splitBlanksFrom [] rest
        else pending.reverse :: splitBlanksFrom [] rest
      else splitBlanksFrom (c :: pending) rest

/-- The parts of a text between runs of blanks, without empty parts. -/
def splitAtBlanks (text : List Char) : List (List Char) := splitBlanksFrom [] text

end Rulebook.Text
