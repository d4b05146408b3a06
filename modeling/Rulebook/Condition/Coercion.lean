import Rulebook.Calendar.DateText
import Rulebook.Condition.Operator
import Rulebook.Text.Case

/-!
# Reading values as a declared type

Texts, numbers, truth values and points in time from whatever a document holds.  A value that
cannot be read is refused with a reason.
-/

namespace Rulebook

/-- Why a value cannot be read as a declared type. -/
inductive CoercionIssue where
  | wrongKind (kind : Value.Kind) (type : ValueType)
  | badText (text : String) (type : ValueType)
  | tooLargeForText
  | tooLargeForNumber
  | notFinite (number : Binary64)
  | emptyDate
  | badTimestamp (shown : String)
  /-- An operand that is not given. -/
  | unconfigured (operand : String)
  deriving DecidableEq, Repr

/-- The text of an issue. -/
def CoercionIssue.message : CoercionIssue → String
  | wrongKind kind type => "cannot read " ++ kind.name ++ " as " ++ type.name
  | badText text type => "cannot read " ++ Text.quoted text ++ " as " ++ type.name
  | tooLargeForText => "number is too large to read as string"
  | tooLargeForNumber => "integer is too large to read as number"
  | notFinite number => NumberLayout.message.render number ++ " is not a finite number"
  | emptyDate => "cannot read an empty string as date"
  | badTimestamp shown => shown ++ " is not a valid timestamp"
  | unconfigured operand => "no " ++ operand ++ " configured"

/-- Why a reading ends without a result: the value is refused, or the reason itself cannot be
told. -/
inductive Refusal where
  | issue (issue : CoercionIssue)
  | fault (fault : Fault)
  deriving Repr

/-- The result of reading a value. -/
abbrev Coerced (α : Type) := Except Refusal α

/-- Refuses a value. -/
def refuse {α : Type} (issue : CoercionIssue) : Coerced α := .error (.issue issue)

/-- The microseconds that a floating-point number of seconds stands for: the fraction is taken to
microseconds in the floating-point format and then rounded to the nearest one. -/
def Binary64.epochMicros? (seconds : Binary64) : Option Int :=
  if seconds.isFinite then
    let (numerator, denominator) := seconds.ratio
    let whole := numerator.tdiv denominator
    let rest := numerator - whole * denominator
    let (scaled, unit) := (ofRatio false (rest.natAbs * 1000000) denominator).ratio
    let micros : Int := roundHalfEven scaled.toNat unit
    some (whole * 1000000 + if rest < 0 then -micros else micros)
  else
    none

namespace Value

/-- Reads a value as text. -/
def toText (value : Value) : Coerced String :=
  match value with
  | text value => .ok value
  | bool value => .ok (if value then "true" else "false")
  | int value => (Numeral.integerText? value).elim (refuse .tooLargeForText) .ok
  | float value =>
      match value.toInt? with
      | some whole => (Numeral.integerText? whole).elim (refuse .tooLargeForText) .ok
      | none => .ok (NumberLayout.message.render value)
  | date value => .ok value.isoText
  | dateTime value => .ok value.isoText
  | value => refuse (.wrongKind value.kind .string)

/-- A floating-point number that is finite. -/
def finite (number : Binary64) : Coerced Number :=
  if number.isFinite then .ok (.real number) else refuse (.notFinite number)

/-- Reads a value as a number.  Integers stay exact, but have to be in the range of floating-point
numbers. -/
def toNumber (value : Value) : Coerced Number :=
  match value with
  | bool value => .ok (.integer (if value then 1 else 0))
  | int value =>
      if (Binary64.ofInt value).isFinite then .ok (.integer value) else refuse .tooLargeForNumber
  | float value => finite value
  | text value => (Numeral.float? value.toList).elim (refuse (.badText value .number)) finite
  | value => refuse (.wrongKind value.kind .number)

/-- The words for true. -/
def trueWords : List String := ["true", "1", "yes", "y"]

/-- The words for false. -/
def falseWords : List String := ["false", "0", "no", "n"]

/-- Reads a value as a truth value. -/
def toBool (value : Value) : Coerced Bool :=
  match value with
  | bool value => .ok value
  | int value => .ok (value != 0)
  | float value => .ok (!value.isZero)
  | text value =>
      let word := Text.lower (Text.trim value)
      if trueWords.contains word then .ok true
      else if falseWords.contains word then .ok false
      else refuse (.badText value .boolean)
  | value => refuse (.wrongKind value.kind .boolean)

/-- Reads a text as a point in time. -/
def momentOfText (value : String) : Coerced DateTime :=
  let trimmed := Text.trim value
  if trimmed.isEmpty then refuse .emptyDate
  else (DateText.read? trimmed.toList).elim (refuse (.badText trimmed .date)) .ok

/-- Reads a number of seconds since the start of 1970. -/
def momentOfSeconds (micros : Option Int) (value : Value) : Coerced DateTime :=
  match micros.bind DateTime.ofEpochMicros?, value.literal with
  | some moment, _ => .ok moment
  | none, .ok shown => refuse (.badTimestamp shown)
  | none, .error fault => .error (.fault fault)

/-- Reads a value as a point in time.  A clock time without a distance from universal time is
taken as universal time. -/
def toMoment (value : Value) : Coerced DateTime :=
  DateTime.withOffset <$> match value with
  | dateTime value => .ok value
  | date value => .ok (.ofDate value)
  | text value => momentOfText value
  | int seconds => momentOfSeconds (some (seconds * 1000000)) value
  | float seconds => momentOfSeconds seconds.epochMicros? value
  | value => refuse (.wrongKind value.kind .date)

end Value

/-- A value read as a declared type. -/
inductive Subject where
  | text (value : String)
  | number (value : Number)
  | bool (value : Bool)
  | moment (value : DateTime)
  deriving DecidableEq, Repr

namespace Subject

/-- The value itself. -/
def toValue : Subject → Value
  | text value => .text value
  | number (.integer value) => .int value
  | number (.real value) => .float value
  | bool value => .bool value
  | moment value => .dateTime value

/-- The short form in reasons. -/
def describe (subject : Subject) : String := subject.toValue.describe

/-- Whether two values of one type are equal. -/
def same : Subject → Subject → Bool
  | text left, text right => left == right
  | number left, number right => left.sameValue right
  | bool left, bool right => left == right
  | moment left, moment right => left.instant == right.instant
  | _, _ => false

/-- Whether the first of two numbers, or of two points in time, comes before the second. -/
def less : Subject → Subject → Bool
  | number left, number right => left.less right
  | moment left, moment right => left.instant < right.instant
  | _, _ => false

end Subject

/-- Reads a value as a declared type; values of unknown type are not read. -/
def ValueType.read (type : ValueType) (value : Value) : Coerced Subject :=
  match type with
  | string => .text <$> value.toText
  | number => .number <$> value.toNumber
  | boolean => .bool <$> value.toBool
  | date => .moment <$> value.toMoment
  | unknown => refuse (.wrongKind value.kind .unknown)

end Rulebook
