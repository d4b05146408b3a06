import Rulebook.Document.Value

/-!
# Equality of values

Values are the same when they compare equal: truth values and numbers by their exact value, texts
and bytes by content, sequences of one type element by element, mappings without regard to order,
and points in time either both as clock times or both as instants.
-/

namespace Rulebook

/-- Whether two points in time are equal.  A clock time never equals an instant. -/
def DateTime.sameMoment (left right : DateTime) : Bool :=
  match left.offset, right.offset with
  | some _, some _ => left.instant == right.instant
  | none, none => left.date == right.date && left.time == right.time
  | _, _ => false

namespace Value

/-- Whether a number and a value compare equal. -/
def sameNumber (left : Number) (right : Value) : Bool :=
  match right.number? with
  | some right => left.sameValue right
  | none => false

mutual

/-- Whether two values compare equal. -/
def same : Value → Value → Bool
  | bool left, right => sameNumber (.integer (if left then 1 else 0)) right
  | int left, right => sameNumber (.integer left) right
  | float left, right => sameNumber (.real left) right
  | absent, absent | null, null => true
  | text left, text right => left == right
  | bytes left, bytes right => left == right
  | date left, date right => left == right
  | dateTime left, dateTime right => left.sameMoment right
  | list left, list right => sameItems left right
  | tuple left, tuple right => sameItems left right
  | mapping left, mapping right => left.length == right.length && sameEntries left right
  | _, _ => false

/-- Whether two sequences are equal element by element. -/
def sameItems : List Value → List Value → Bool
  | [], [] => true
  | left :: lefts, right :: rights => same left right && sameItems lefts rights
  | _, _ => false

/-- Whether every entry of the first mapping has an equal one in the second. -/
def sameEntries : List (String × Value) → List (String × Value) → Bool
  | [], _ => true
  | (key, left) :: lefts, rights =>
      (match rights.lookup key with
        | some right => same left right
        | none => false) && sameEntries lefts rights

end

mutual

/-- The name of the type that keeps a value from being a key, when there is one. -/
def unhashable? : Value → Option String
  | list _ => some "list"
  | mapping _ => some "dict"
  | tuple items => unhashableItem? items
  | _ => none

/-- The type that keeps a tuple from being a key. -/
def unhashableItem? : List Value → Option String
  | [] => none
  | item :: items => (unhashable? item).orElse fun _ => unhashableItem? items

end

end Value

end Rulebook
