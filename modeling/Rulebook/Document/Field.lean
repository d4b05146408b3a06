import Rulebook.Fault
import Rulebook.Text.Case
import Rulebook.Text.Utf8

/-!
# Reading fields

The fields of documents, requests and configurations are read leniently: texts may be given as
bytes, numbers and truth values as texts, and integers as numbers without a fraction.
-/

namespace Rulebook.Field

/-- The result of reading a field. -/
abbrev Read := Except FieldProblem

/-- Reads a text. -/
def text : Value → Read String
  | .text value => .ok value
  | .bytes value => (Text.utf8? value).elim (.error .notUtf8) .ok
  | _ => .error .notText

/-- Reads a text or nothing. -/
def optionalText : Value → Read (Option String)
  | .null => .ok none
  | value => (text value).map some

/-- Reads the name of a member of a closed family. -/
def member {α : Type} (names : List String) (ofName? : String → Option α) (value : Value) :
    Read α :=
  match text value with
  | .ok name => (ofName? name).elim (.error (.notAmong names)) .ok
  | .error _ => .error (.notAmong names)

/-- Reads a sequence. -/
def items : Value → Read (List Value)
  | .list items | .tuple items => .ok items
  | _ => .error .notList

/-- Reads a mapping. -/
def entries : Value → Read (List (String × Value))
  | .mapping entries => .ok entries
  | _ => .error .notMapping

/-- A numeral without its leading zeros.  A zero stays in front of a point and when there is
nothing else; `previous` is the last character passed. -/
def dropZeros (previous : Char) : List Char → Option (List Char)
  | [] => some [previous]
  | c :: rest =>
      if c = '0' || c = '_' then dropZeros c rest
      else if c = '.' then some (previous :: c :: rest)
      else if c.isDigit then some (c :: rest)
      else none

/-- A numeral without leading zeros, sign and fraction of zeros. -/
def plainNumeral? (text : List Char) : Option (List Char) := do
  let text := Text.trimWhile Text.isWhiteSpace text
  let text ← match text with
    | '+' :: '-' :: _ => none
    | '+' :: rest => some rest
    | text => some text
  let text ← match text with
    | '0' :: rest => dropZeros '0' rest
    | c :: rest => if c.isDigit || c = '-' then some (c :: rest) else none
    | [] => none
  let whole := text.takeWhile (· != '.')
  let fraction := text.drop (whole.length + 1)
  if whole.length < text.length && fraction.all (· == '0') then some whole else some text

/-- Whether two underscores follow each other. -/
def hasDoubleUnderscore : List Char → Bool
  | '_' :: '_' :: _ => true
  | _ :: rest => hasDoubleUnderscore rest
  | [] => false

/-- A numeral without the underscores that group its digits. -/
def withoutUnderscores (text : List Char) : List Char :=
  if text.head? = some '_' || text.getLast? = some '_' || hasDoubleUnderscore text then text
  else text.filter (· != '_')

/-- Reads the text of an integer. -/
def integerText (text : List Char) : Read Int :=
  match plainNumeral? text with
  | none => .error .notIntegerText
  | some text =>
      let text := withoutUnderscores text
      let negative := text.head? = some '-'
      let body := if negative then text.tail else text
      let digits := body.takeWhile Char.isDigit
      if Numeral.digitLimit < text.length - body.length + digits.length then
        .error .integerTooLarge
      else if digits.isEmpty || digits.length < body.length ||
          (digits.head? = some '0' && 1 < digits.length) then
        .error .notIntegerText
      else
        let number : Int := Text.decimalNumber digits
        .ok (if negative then -number else number)

/-- The first positive integer that no machine word holds. -/
def wordLimit : Int := 9223372036854775808

/-- Reads an integer. -/
def integer : Value → Read Int
  | .bool value => .ok (if value then 1 else 0)
  | .int value => .ok value
  | .float value =>
      if !value.isFinite then .error .notFinite
      else match value.toInt? with
        | none => .error .fractional
        | some number =>
            if -wordLimit < number && number < wordLimit then .ok number
            else .error .integerTooLarge
  | .text value => integerText value.toList
  | .bytes value =>
      (Text.utf8? value).elim (.error .notIntegerText) fun value => integerText value.toList
  | _ => .error .notInteger

/-- Reads an integer or nothing. -/
def optionalInteger : Value → Read (Option Int)
  | .null => .ok none
  | value => (integer value).map some

/-- Reads the word for a truth value, in any ASCII case. -/
def booleanText (text : String) : Read Bool :=
  let word := String.ofList (text.toList.map Char.toLower)
  if ["0", "off", "f", "false", "n", "no"].contains word then .ok false
  else if ["1", "on", "t", "true", "y", "yes"].contains word then .ok true
  else .error .notBooleanWord

/-- Reads a truth value given as an integer. -/
def booleanInteger (number : Int) : Read Bool :=
  if number = 0 then .ok false
  else if number = 1 then .ok true
  else if -wordLimit ≤ number && number < wordLimit then .error .notBooleanWord
  else .error .notBoolean

/-- Reads a truth value. -/
def boolean : Value → Read Bool
  | .bool value => .ok value
  | .int value => booleanInteger value
  | .float value => match value.toInt? with
      | some number => if number = -wordLimit then .error .notBoolean else booleanInteger number
      | none => .error .notBoolean
  | .text value => booleanText value
  | .bytes value => (Text.utf8? value).elim (.error .notBoolean) booleanText
  | _ => .error .notBoolean

/-- The problem of a field, when it has one, with the name of the field. -/
def issue {α : Type} (name : String) (result : Read α) : List FieldIssue :=
  match result with
  | .ok _ => []
  | .error problem => [{ field := name, problem }]

end Rulebook.Field
