import Rulebook.Calendar.DateTime
import Rulebook.Number.Number

/-!
# Document values

The values that documents, rule documents and operands are made of: JSON values with ordered
mappings, and beside them fixed sequences, native dates, bytes and the mark of a value that is
not there.
-/

namespace Rulebook

/-- A value of a document. -/
inductive Value where
  /-- The mark for a location that does not lead to a value. -/
  | absent
  | null
  | bool (value : Bool)
  | int (value : Int)
  | float (value : Binary64)
  | text (value : String)
  | list (items : List Value)
  /-- A sequence of fixed length, kept apart from a list. -/
  | tuple (items : List Value)
  /-- An ordered mapping. -/
  | mapping (entries : List (String × Value))
  | date (value : Date)
  | dateTime (value : DateTime)
  | bytes (value : List UInt8)
  deriving Repr

namespace Value

instance : Inhabited Value := ⟨null⟩

/-- The shapes a document distinguishes. -/
inductive Kind where
  | null
  | boolean
  | number
  | string
  | sequence
  | mapping
  | other
  deriving DecidableEq, Repr

/-- The word for a shape in messages. -/
def Kind.name : Kind → String
  | null => "null"
  | boolean => "boolean"
  | number => "number"
  | string => "string"
  | sequence => "sequence"
  | mapping => "mapping"
  | other => "other"

/-- The shape of a value. -/
def kind : Value → Kind
  | null => .null
  | bool _ => .boolean
  | int _ | float _ => .number
  | text _ => .string
  | list _ | tuple _ => .sequence
  | mapping _ => .mapping
  | absent | date _ | dateTime _ | bytes _ => .other

/-- Whether the value is there and not null. -/
def isPresent : Value → Bool
  | absent | null => false
  | _ => true

/-- Whether the value is the mark of a missing one. -/
def isAbsent : Value → Bool
  | absent => true
  | _ => false

/-- Whether the value is null. -/
def isNull : Value → Bool
  | null => true
  | _ => false

/-- Whether the value is neither missing, null, false, zero nor empty. -/
def isTruthy : Value → Bool
  | absent | null => false
  | bool value => value
  | int value => value != 0
  | float value => !value.isZero
  | text value => !value.isEmpty
  | list items | tuple items => !items.isEmpty
  | mapping entries => !entries.isEmpty
  | bytes value => !value.isEmpty
  | date _ | dateTime _ => true

/-- The elements of a sequence. -/
def items? : Value → Option (List Value)
  | list items | tuple items => some items
  | _ => none

/-- The value under a key of a mapping, or the mark of a missing one. -/
def field (key : String) (entries : List (String × Value)) : Value :=
  (entries.lookup key).getD absent

/-- The first value of a sequence that is not null, or the mark of a missing one. -/
def firstNonNull (items : List Value) : Value :=
  (items.find? fun item => !item.isNull).getD absent

/-- The number that a value stands for when values are compared. -/
def number? : Value → Option Number
  | bool value => some (.integer (if value then 1 else 0))
  | int value => some (.integer value)
  | float value => some (.real value)
  | _ => none

/-- The name of the type of a value, as some messages give it. -/
def typeName : Value → String
  | absent => "_Absent"
  | null => "NoneType"
  | bool _ => "bool"
  | int _ => "int"
  | float _ => "float"
  | text _ => "str"
  | list _ => "list"
  | tuple _ => "tuple"
  | mapping _ => "dict"
  | date _ => "date"
  | dateTime _ => "datetime"
  | bytes _ => "bytes"

/-- The name of the type of a value in messages that tell where a type belongs. -/
def qualifiedTypeName : Value → String
  | date value => "datetime." ++ typeName (date value)
  | dateTime value => "datetime." ++ typeName (dateTime value)
  | value => value.typeName

end Value

end Rulebook
