import Rulebook.Path.Basic
import Rulebook.Number.Numeral

/-!
# Following paths

The value that a path leads to inside a document, and the marks that a sample document puts on a
path.
-/

namespace Rulebook

namespace Value

/-- The value at a position of a sequence that is given by digits. -/
def atIndex (items : List Value) (key : String) : Except Fault Value :=
  match Numeral.index? key.toList with
  | .ok position => .ok (items[position]?.getD absent)
  | .error .malformed => .error (.badIndex key)
  | .error (.tooLong digits) => .error (.numeralTooLong digits)

/-- Whether a key is made of digits. -/
def isIndexKey (key : String) : Bool :=
  !key.isEmpty && key.toList.all Text.isDigitLike

/-- The value under a key: an entry of a mapping or, for a key made of digits, an element of a
sequence.  Anything else leads nowhere. -/
def child (current : Value) (key : String) : Except Fault Value :=
  match current with
  | mapping entries => .ok (field key entries)
  | list items | tuple items => if isIndexKey key then atIndex items key else .ok absent
  | _ => .ok absent

end Value

namespace Path

/-- Goes on from the value at a step.  With `representative` set, a sequence is replaced by its
first element that is not null unless the step is the last one. -/
def representativeOf (representative isLast : Bool) (value : Value) : Value :=
  if representative && !isLast then
    match value.items? with
    | some items => Value.firstNonNull items
    | none => value
  else
    value

/-- The value that a path leads to, or the mark of a missing one. -/
def resolve (representative : Bool) : Path → Value → Except Fault Value
  | [], current => .ok current
  | segment :: rest, current => do
      let value ← current.child segment.key
      let next := representativeOf representative rest.isEmpty value
      if next.isAbsent then .ok .absent else resolve representative rest next

/-- Marks the steps that lead to a sequence in a sample document, and goes on from the first
element that is not null. -/
def marked : Path → Value → Except Fault Path
  | [], _ => .ok []
  | segment :: rest, current => do
      let value ← current.child segment.key
      match value.items? with
      | some items => do
          let rest ← marked rest (Value.firstNonNull items)
          .ok ({ key := segment.key, isMarked := true } :: rest)
      | none => do
          let rest ← marked rest value
          .ok (segment.unmarked :: rest)

end Path

end Rulebook
