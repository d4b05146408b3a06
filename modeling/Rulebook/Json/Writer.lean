import Rulebook.Fault

/-!
# JSON text

The compact JSON form of a value.  Both kinds of sequences become arrays.  Dates, bytes and the
mark of a missing value have no such form, and neither have integers with too many digits.
-/

namespace Rulebook.Json

/-- A character between the quotes of a JSON string. -/
def escapeChar (c : Char) : List Char :=
  if c = '"' then ['\\', '"']
  else if c = '\\' then ['\\', '\\']
  else if c = '\n' then ['\\', 'n']
  else if c = '\r' then ['\\', 'r']
  else if c = '\t' then ['\\', 't']
  else if c.toNat = 8 then ['\\', 'b']
  else if c.toNat = 12 then ['\\', 'f']
  else if c.toNat < 0x20 then '\\' :: 'u' :: Text.hexDigits 4 c.toNat
  else [c]

/-- A JSON string. -/
def writeText (text : String) : List Char :=
  '"' :: text.toList.flatMap escapeChar ++ ['"']

mutual

/-- The JSON form of a value. -/
def write : Value → Except Fault (List Char)
  | .null => .ok "null".toList
  | .bool value => .ok (if value then "true".toList else "false".toList)
  | .int value => (Numeral.integerText? value).elim (.error .integerTooLong) fun text =>
      .ok text.toList
  | .float value => .ok (NumberLayout.json.render value).toList
  | .text value => .ok (writeText value)
  | .list items | .tuple items => do
      let parts ← writeItems items
      return '[' :: [','].intercalate parts ++ [']']
  | .mapping entries => do
      let parts ← writeEntries entries
      return '\x7b' :: [','].intercalate parts ++ ['\x7d']
  | .absent => .error (.notWritable (Value.typeName .absent))
  | .date value => .error (.notWritable (Value.typeName (.date value)))
  | .dateTime value => .error (.notWritable (Value.typeName (.dateTime value)))
  | .bytes value => .error (.notWritable (Value.typeName (.bytes value)))

/-- The JSON forms of the elements of a sequence. -/
def writeItems : List Value → Except Fault (List (List Char))
  | [] => .ok []
  | item :: items => do
      let first ← write item
      let rest ← writeItems items
      return first :: rest

/-- The JSON forms of the entries of a mapping. -/
def writeEntries : List (String × Value) → Except Fault (List (List Char))
  | [] => .ok []
  | (key, value) :: entries => do
      let first ← write value
      let rest ← writeEntries entries
      return (writeText key ++ ':' :: first) :: rest

end

/-- The JSON text of a value. -/
def text (value : Value) : Except Fault String :=
  (write value).map String.ofList

end Rulebook.Json
