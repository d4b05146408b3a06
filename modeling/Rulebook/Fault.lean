import Rulebook.Document.Literal

/-!
# Faults

Everything that can stop an operation, by its cause, and the texts that report it.  Rejections of
rules and requests carry a code and details; the other faults come from values that a step cannot
work with.
-/

namespace Rulebook

/-- What is wrong with one field of a document, a request or a configuration. -/
inductive FieldProblem where
  | missing
  | notText
  | notUtf8
  | notAmong (choices : List String)
  | notList
  | notMapping
  | notInteger
  | notIntegerText
  | fractional
  | notFinite
  | integerTooLarge
  | notBoolean
  | notBooleanWord
  | emptyText
  | belowOne
  deriving DecidableEq, Repr

namespace FieldProblem

/-- Choices in words: commas, and "or" before the last one. -/
def choicesText : List String → String
  | [] => ""
  | [choice] => "'" ++ choice ++ "'"
  | [first, last] => "'" ++ first ++ "' or '" ++ last ++ "'"
  | choice :: choices => "'" ++ choice ++ "', " ++ choicesText choices

/-- The text of a problem. -/
def message : FieldProblem → String
  | missing => "Field required"
  | notText => "Input should be a valid string"
  | notUtf8 => "Input should be a valid string, unable to parse raw data as a unicode string"
  | notAmong choices => "Input should be " ++ choicesText choices
  | notList => "Input should be a valid list"
  | notMapping => "Input should be a valid dictionary"
  | notInteger => "Input should be a valid integer"
  | notIntegerText => "Input should be a valid integer, unable to parse string as an integer"
  | fractional => "Input should be a valid integer, got a number with a fractional part"
  | notFinite => "Input should be a finite number"
  | integerTooLarge => "Unable to parse input string as an integer, exceeded maximum size"
  | notBoolean => "Input should be a valid boolean"
  | notBooleanWord => "Input should be a valid boolean, unable to interpret input"
  | emptyText => "String should have at least 1 character"
  | belowOne => "Input should be greater than or equal to 1"

end FieldProblem

/-- A problem and the name of the field that has it. -/
structure FieldIssue where
  field : String
  problem : FieldProblem
  deriving DecidableEq, Repr

/-- What a rejection is about. -/
inductive Category where
  | request
  | document
  | rule
  deriving DecidableEq, Repr

/-- The code under which a rejection is reported. -/
def Category.code : Category → String
  | request => "VALIDATION_ERROR"
  | document => "INVALID_RULE_DOCUMENT"
  | rule => "INVALID_RULE"

/-- The text of a rejection that says nothing more. -/
def Category.defaultMessage : Category → String
  | request => "Validation failed"
  | document => "Invalid rule document"
  | rule => "Invalid rule"

/-- A rejection of a request, a rule document or a rule. -/
structure Rejection where
  category : Category
  message : String
  details : List (String × Value)
  deriving Repr

/-- The causes that stop an operation. -/
inductive Fault where
  | rejected (rejection : Rejection)
  | fields (issues : List FieldIssue)
  /-- A value that names no member of a closed family. -/
  | notAMember (shown family : String)
  /-- A path segment that looks like digits and is no decimal number. -/
  | badIndex (text : String)
  /-- An integer of too many digits, met while reading. -/
  | numeralTooLong (digits : Nat)
  /-- An integer of too many digits, met while writing. -/
  | integerTooLong
  | emptySeparator
  /-- A pattern repeats more often than can be counted. -/
  | repetitionTooLarge
  /-- A pattern names a code point that no integer of the machine stands for. -/
  | codePointTooLarge
  /-- A pattern chooses both alphabets for itself as a whole. -/
  | twoAlphabets
  /-- A pattern looks behind over a width that cannot be carried out. -/
  | lookBehindTooWide
  /-- A value where a rule is expected. -/
  | notARule (shown : String)
  /-- A value where a rule to be put in place of another is expected. -/
  | notReplaceable
  | noProperty (typeName property : String)
  | missingKey (key : String)
  /-- A value that has no elements to go through. -/
  | notIterable (typeName : String)
  /-- A value that JSON text has no form for. -/
  | notWritable (typeName : String)
  /-- A path of a type that cannot be a key. -/
  | unhashable (typeName : String)
  | unknownLevel (name : String)
  deriving Repr

namespace Fault

/-- A rejection of a rule document. -/
def document (message : String) (details : List (String × Value)) : Fault :=
  .rejected { category := .document, message, details }

/-- A rejection of a rule. -/
def rule (message : String) (details : List (String × Value)) : Fault :=
  .rejected { category := .rule, message, details }

/-- The text of a fault. -/
def message : Fault → String
  | rejected rejection => rejection.message
  | fields issues => "; ".intercalate (issues.map fun issue =>
      issue.field ++ ": " ++ issue.problem.message)
  | notAMember shown family => shown ++ " is not a valid " ++ family
  | badIndex text => "invalid literal for int() with base 10: " ++ Text.quoted text
  | numeralTooLong digits =>
      "Exceeds the limit (4300 digits) for integer string conversion: value has " ++
        toString digits ++ " digits; use sys.set_int_max_str_digits() to increase the limit"
  | integerTooLong =>
      "Exceeds the limit (4300 digits) for integer string conversion; " ++
        "use sys.set_int_max_str_digits() to increase the limit"
  | emptySeparator => "empty separator"
  | repetitionTooLarge => "the repetition number is too large"
  | codePointTooLarge => "Python int too large to convert to C int"
  | twoAlphabets => "ASCII and UNICODE flags are incompatible"
  | lookBehindTooWide => "invalid SRE code"
  | notARule shown => "not a rule node: " ++ shown
  | notReplaceable => "replace() should be called on dataclass instances"
  | noProperty typeName property =>
      Text.quoted typeName ++ " object has no attribute " ++ Text.quoted property
  | missingKey key => Text.quoted key
  | notIterable typeName => Text.quoted typeName ++ " object is not iterable"
  | notWritable typeName => "Object of type " ++ typeName ++ " is not JSON serializable"
  | unhashable typeName => "unhashable type: " ++ Text.quoted typeName
  | unknownLevel name => "module 'logging' has no attribute " ++ Text.quoted name

end Fault

namespace Value

/-- The literal form of a value, which has to exist. -/
def literal (value : Value) : Except Fault String :=
  value.literal?.elim (.error .integerTooLong) .ok

/-- The plain form of a value, which has to exist. -/
def plain (value : Value) : Except Fault String :=
  value.plain?.elim (.error .integerTooLong) .ok

/-- The values that going through a value gives: elements, keys, characters or bytes. -/
def elements : Value → Except Fault (List Value)
  | list items | tuple items => .ok items
  | mapping entries => .ok (entries.map fun entry => text entry.1)
  | text value => .ok (value.toList.map fun c => text (String.ofList [c]))
  | bytes value => .ok (value.map fun byte => int byte.toNat)
  | value => .error (.notIterable value.qualifiedTypeName)

end Value

end Rulebook
