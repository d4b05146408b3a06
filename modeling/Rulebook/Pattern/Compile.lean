import Rulebook.Pattern.Reader

/-!
# Patterns from texts

A text is a pattern when it can be read to its end, refers to groups that exist, and looks behind
only over a fixed width.
-/

namespace Rulebook

/-- A pattern that can be searched for. -/
structure Pattern where
  flags : Pattern.Flags
  /-- The number of groups that remember their match. -/
  groups : Nat
  pieces : List Pattern.Piece
  deriving Repr

namespace Pattern

/-- The greatest width of a look-behind, below which it can be written down. -/
def writableWidth : Nat := Nat.pow 2 32

/-- The width from which on a look-behind cannot be carried out. -/
def unusableWidth : Nat := Nat.pow 2 31

/-- The name of a repetition in a template. -/
def Greed.templateName : Greed → String
  | greedy => "MAX_REPEAT"
  | reluctant => "MIN_REPEAT"
  | possessive => "POSSESSIVE_REPEAT"

mutual

/-- What makes a piece unusable: a repetition in a template, or a look-behind of no fixed
width. -/
def Piece.defect? (template : Bool) : Piece → Option String
  | .point _ | .otherThan _ | .anyChar | .set _ | .anchor _ | .reference .. => none
  | .group _ _ _ body | .atomic body => firstDefect? template body
  | .repeated greed _ _ body =>
      if template then some ("internal: unsupported template operator " ++ greed.templateName)
      else firstDefect? template body
  | .choice alternatives => firstDefectOf? template alternatives
  | .look behind _ body =>
      let width := (totalWidth body).limited
      if behind && writableWidth ≤ width.least then some "looks too much behind"
      else if behind && width.least != width.most then
        some "look-behind requires fixed-width pattern"
      else firstDefect? template body
  | .conditional _ matched unmatched =>
      (firstDefect? template matched).orElse fun _ => firstDefect? template unmatched

/-- What makes a sequence unusable. -/
def firstDefect? (template : Bool) : List Piece → Option String
  | [] => none
  | piece :: pieces => (piece.defect? template).orElse fun _ => firstDefect? template pieces

/-- What makes a choice unusable. -/
def firstDefectOf? (template : Bool) : List (List Piece) → Option String
  | [] => none
  | pieces :: rest => (firstDefect? template pieces).orElse fun _ => firstDefectOf? template rest

end

mutual

/-- Whether a piece looks behind over a width that cannot be carried out. -/
def Piece.looksTooFar : Piece → Bool
  | .point _ | .otherThan _ | .anyChar | .set _ | .anchor _ | .reference .. => false
  | .group _ _ _ body | .atomic body | .repeated _ _ _ body => someLooksTooFar body
  | .choice alternatives => someChoiceLooksTooFar alternatives
  | .look behind _ body =>
      (behind && unusableWidth ≤ (totalWidth body).limited.least) || someLooksTooFar body
  | .conditional _ matched unmatched => someLooksTooFar matched || someLooksTooFar unmatched

/-- Whether some piece of a sequence looks too far behind. -/
def someLooksTooFar : List Piece → Bool
  | [] => false
  | piece :: pieces => piece.looksTooFar || someLooksTooFar pieces

/-- Whether some piece of a choice looks too far behind. -/
def someChoiceLooksTooFar : List (List Piece) → Bool
  | [] => false
  | pieces :: rest => someLooksTooFar pieces || someChoiceLooksTooFar rest

end

/-- Fails when the pattern has been read and is not usable. -/
def check (flags : Flags) (groups : Nat) (pieces : List Piece) : Except Failure Pattern :=
  match firstDefect? (flags.contains .template) pieces with
  | some reason => .error (.defect { reason, position := none })
  | none =>
      if someLooksTooFar pieces then .error .lookBehindTooWide
      else .ok { flags, groups, pieces }

/-- Reads a pattern to the end of its text. -/
def readWhole (steps : Nat) : Reader Pattern := do
  let pieces ← Reader.readChoice steps false true
  let reading ← get
  let groups := reading.widths.length
  if reading.flags.contains .ascii && reading.flags.contains .unicode then
    throw .twoAlphabets
  else if reading.cursor.next.isSome then
    Reader.failHere "unbalanced parenthesis"
  else
    match reading.conditions.find? fun (group, _) => groups < group with
    | some (group, place) =>
        Reader.failAt place ("invalid group reference " ++ toString group)
    | none =>
        let flags := reading.flags
        check (if flags.contains .ascii then flags else flags.including .unicode) groups pieces

/-- The pattern that a text describes. -/
def ofChars (text : List Char) : Except Failure Pattern := do
  let cursor ← Cursor.at? 0 text
  let (pattern, _) ← (readWhole (4 * text.length + 8)).run { cursor }
  return pattern

end Pattern

end Rulebook
