import Rulebook.Pattern.Alphabet
import Rulebook.Pattern.Compile

/-!
# Searching

Pieces are matched from left to right; what comes after a piece is its goal, and a piece tries its
own ways in order until the goal is reached.  A repetition whose body matched nothing is not tried
once more at the same place.
-/

namespace Rulebook.Pattern

/-- How far a match has come. -/
structure Place where
  position : Nat
  /-- Where the groups started and ended, two entries for each group. -/
  marks : Array (Option Nat)
  deriving Repr

/-- What remains to be matched from a place on; the answer is the place where it ends. -/
abbrev Goal := Place → Option Place

namespace Place

/-- The same place further on. -/
def movedTo (place : Place) (position : Nat) : Place := { place with position }

/-- Notes where a group starts. -/
def opened (place : Place) (group : Nat) : Place :=
  { place with marks := place.marks.setIfInBounds (2 * (group - 1)) (some place.position) }

/-- Notes where a group ends. -/
def closed (place : Place) (group : Nat) : Place :=
  { place with marks := place.marks.setIfInBounds (2 * group - 1) (some place.position) }

/-- The part of the text that a group has matched. -/
def span? (place : Place) (group : Nat) : Option (Nat × Nat) :=
  match place.marks[2 * (group - 1)]?.join, place.marks[2 * group - 1]?.join with
  | some start, some stop => if start ≤ stop then some (start, stop) else none
  | _, _ => none

end Place

/-- Whether a condition holds at a position of the text. -/
def Anchor.holds (anchor : Anchor) (flags : Flags) (text : Array Char) (position : Nat) : Bool :=
  let before := if position = 0 then none else text[position - 1]?
  let behind := text[position]?
  let isWord (c : Option Char) : Bool := (c.map (Alphabet.ofFlags flags).isWord).getD false
  match anchor with
  | .start => position = 0 || (flags.contains .multiline && before == some '\n')
  | .finish =>
      position = text.size || (behind == some '\n' &&
        (flags.contains .multiline || position + 1 = text.size))
  | .textStart => position = 0
  | .textFinish => position = text.size
  | .wordBoundary negated => text.size != 0 && (isWord before != isWord behind) != negated

/-- The characters that a piece of one character takes. -/
def Piece.taker? (flags : Flags) : Piece → Option (Char → Bool)
  | .point value => some ((Alphabet.ofFlags flags).takesPoint value)
  | .otherThan value => some fun c => !(Alphabet.ofFlags flags).takesPoint value c
  | .anyChar => some fun c => flags.contains .dotAll || c != '\n'
  | .set characters => some ((Alphabet.ofFlags flags).takesSet characters)
  | _ => none

/-- The characters that a sequence of one such piece takes. -/
def taker? (flags : Flags) : List Piece → Option (Char → Bool)
  | [piece] => piece.taker? flags
  | _ => none

/-- How many characters of a class follow a position, `limit` at most. -/
def runLength (takes : Char → Bool) (text : Array Char) : (limit position : Nat) → Nat
  | 0, _ => 0
  | limit + 1, position =>
      match text[position]? with
      | some c => if takes c then 1 + runLength takes text limit (position + 1) else 0
      | none => 0

/-- Tries the goal behind `least + extra`, …, `least` characters. -/
def tryFewer (goal : Goal) (place : Place) (least : Nat) : (extra : Nat) → Option Place
  | 0 => goal (place.movedTo (place.position + least))
  | extra + 1 =>
      (goal (place.movedTo (place.position + least + (extra + 1)))).orElse fun _ =>
        tryFewer goal place least extra

/-- Tries the goal behind `count`, `count + 1`, … characters, `extra` more than `count` at
most. -/
def tryMore (goal : Goal) (place : Place) : (extra count : Nat) → Option Place
  | 0, count => goal (place.movedTo (place.position + count))
  | extra + 1, count =>
      (goal (place.movedTo (place.position + count))).orElse fun _ =>
        tryMore goal place extra (count + 1)

/-- A repetition of single characters. -/
def repeatChars (text : Array Char) (greed : Greed) (least : Nat) (most : Option Nat)
    (takes : Char → Bool) (goal : Goal) (place : Place) : Option Place :=
  let available := text.size - place.position
  let run := runLength takes text (min available (most.getD available)) place.position
  if run < least then none
  else match greed with
    | .greedy => tryFewer goal place least (run - least)
    | .reluctant => tryMore goal place (run - least) least
    | .possessive => goal (place.movedTo (place.position + run))

/-- Whether a repetition may go on after so many rounds, the last of which started at `last`. -/
def mayGoOn (most : Option Nat) (count : Nat) (last : Option Nat) (place : Place) : Bool :=
  (most.map fun most => decide (count < most)).getD true && last != some place.position

/-- A repetition that prefers more rounds. -/
def repeatGreedily (body : Goal → Goal) (least : Nat) (most : Option Nat) (goal : Goal) :
    (steps count : Nat) → (last : Option Nat) → Goal
  | 0, _, _, place => goal place
  | steps + 1, count, last, place =>
      if count < least then
        body (repeatGreedily body least most goal steps (count + 1) last) place
      else
        let further :=
          if mayGoOn most count last place then
            body (repeatGreedily body least most goal steps (count + 1) (some place.position)) place
          else none
        further.orElse fun _ => goal place

/-- A repetition that prefers fewer rounds. -/
def repeatReluctantly (body : Goal → Goal) (least : Nat) (most : Option Nat) (goal : Goal) :
    (steps count : Nat) → (last : Option Nat) → Goal
  | 0, _, _, place => goal place
  | steps + 1, count, last, place =>
      if count < least then
        body (repeatReluctantly body least most goal steps (count + 1) last) place
      else
        (goal place).orElse fun _ =>
          if mayGoOn most count last place then
            body (repeatReluctantly body least most goal steps (count + 1) (some place.position))
              place
          else none

/-- A repetition that keeps the rounds it has made. -/
def repeatPossessively (body : Goal → Goal) (least : Nat) (most : Option Nat) (goal : Goal) :
    (steps count : Nat) → (last : Option Nat) → Goal
  | 0, _, _, place => goal place
  | steps + 1, count, last, place =>
      if count < least then
        match body some place with
        | some next => repeatPossessively body least most goal steps (count + 1) last next
        | none => none
      else if mayGoOn most count last place then
        match body some place with
        | some next =>
            repeatPossessively body least most goal steps (count + 1) (some place.position) next
        | none => goal place
      else goal place

/-- A repetition of any body. -/
def repeatBody (text : Array Char) (greed : Greed) (least : Nat) (most : Option Nat)
    (body : Goal → Goal) (goal : Goal) (place : Place) : Option Place :=
  let steps := least + (text.size - place.position) + 2
  match greed with
  | .greedy => repeatGreedily body least most goal steps 0 none place
  | .reluctant => repeatReluctantly body least most goal steps 0 none place
  | .possessive => repeatPossessively body least most goal steps 0 none place

/-- Matches the text from `start` to `stop` once more. -/
def matchAgain (text : Array Char) (alphabet : Alphabet) (start stop : Nat) (goal : Goal)
    (place : Place) : Option Place :=
  let length := stop - start
  let same (offset : Nat) : Bool :=
    match text[start + offset]?, text[place.position + offset]? with
    | some c, some d =>
        if alphabet.ignoreCase then alphabet.fold c.toNat == alphabet.fold d.toNat else c == d
    | _, _ => false
  if (List.range length).all same then goal (place.movedTo (place.position + length)) else none

/-- Matches one character of a class and then the goal. -/
def takeOne (text : Array Char) (takes : Char → Bool) (goal : Goal) (place : Place) :
    Option Place :=
  match text[place.position]? with
  | some c => if takes c then goal (place.movedTo (place.position + 1)) else none
  | none => none

mutual

/-- Matches one piece and then the goal. -/
def Piece.reach (text : Array Char) : (flags : Flags) → Piece → Goal → Goal
  | flags, .point value, goal, place =>
      takeOne text ((Alphabet.ofFlags flags).takesPoint value) goal place
  | flags, .otherThan value, goal, place =>
      takeOne text (fun c => !(Alphabet.ofFlags flags).takesPoint value c) goal place
  | flags, .anyChar, goal, place =>
      takeOne text (fun c => flags.contains .dotAll || c != '\n') goal place
  | flags, .set characters, goal, place =>
      takeOne text ((Alphabet.ofFlags flags).takesSet characters) goal place
  | flags, .anchor anchor, goal, place =>
      if anchor.holds flags text place.position then goal place else none
  | flags, .group none added removed body, goal, place =>
      reachAll text (flags.within added removed) body goal place
  | flags, .group (some number) added removed body, goal, place =>
      reachAll text (flags.within added removed) body
        (fun place => goal (place.closed number)) (place.opened number)
  | flags, .repeated greed least most body, goal, place =>
      match taker? flags body with
      | some takes => repeatChars text greed least most takes goal place
      | none => repeatBody text greed least most (reachAll text flags body) goal place
  | flags, .choice alternatives, goal, place => reachAny text flags alternatives goal place
  | flags, .atomic body, goal, place =>
      match reachAll text flags body some place with
      | some next => goal next
      | none => none
  | flags, .look behind negated body, goal, place =>
      let width := if behind then (totalWidth body).limited.least else 0
      let found :=
        if place.position < width then none
        else reachAll text flags body some (place.movedTo (place.position - width))
      match found, negated with
      | some next, false => goal (next.movedTo place.position)
      | none, true => goal place
      | _, _ => none
  | flags, .reference group _, goal, place =>
      match place.span? group with
      | some (start, stop) => matchAgain text (.ofFlags flags) start stop goal place
      | none => none
  | flags, .conditional group matched unmatched, goal, place =>
      if (place.span? group).isSome then reachAll text flags matched goal place
      else reachAll text flags unmatched goal place

/-- Matches a sequence and then the goal. -/
def reachAll (text : Array Char) : (flags : Flags) → List Piece → Goal → Goal
  | _, [], goal, place => goal place
  | flags, piece :: pieces, goal, place =>
      piece.reach text flags (fun place => reachAll text flags pieces goal place) place

/-- Matches the first alternative that leads to the goal. -/
def reachAny (text : Array Char) : (flags : Flags) → List (List Piece) → Goal → Goal
  | _, [], _, _ => none
  | flags, pieces :: rest, goal, place =>
      (reachAll text flags pieces goal place).orElse fun _ => reachAny text flags rest goal place

end

/-- Whether the pattern matches from one of the positions `position`, `position + 1`, …, of which
there are `count`. -/
def matchesFrom (pattern : Pattern) (text : Array Char) : (count position : Nat) → Bool
  | 0, _ => false
  | count + 1, position =>
      let place : Place := { position, marks := Array.replicate (2 * pattern.groups) none }
      (reachAll text pattern.flags pattern.pieces some place).isSome ||
        matchesFrom pattern text count (position + 1)

/-- Whether the pattern matches some part of the text. -/
def occursIn (pattern : Pattern) (text : List Char) : Bool :=
  let text := text.toArray
  matchesFrom pattern text (text.size + 1) 0

end Rulebook.Pattern
