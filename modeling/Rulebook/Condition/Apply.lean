import Rulebook.Condition.Outcome
import Rulebook.Pattern.Search
import Rulebook.Text.Split

/-!
# Applying operators

Presence operators look at a value as it is.  Every other operator first reads the value as the
declared type, and then its operands; a value that cannot be read makes the condition fail.
-/

namespace Rulebook

/-- What a condition compares a value with. -/
structure Operands where
  value : Value
  value2 : Value
  /-- What separates the members of a list that is given as one text; blanks when there is no
  delimiter. -/
  delimiter : Option String

namespace Operands

/-- Reads an operand as the declared type. -/
def readOperand (type : ValueType) (name : String) (operand : Value) : Coerced Subject :=
  if operand.isNull then refuse (.unconfigured name) else type.read operand

/-- The operand. -/
def first (operands : Operands) (type : ValueType) : Coerced Subject :=
  readOperand type "value" operands.value

/-- The second operand. -/
def second (operands : Operands) (type : ValueType) : Coerced Subject :=
  readOperand type "value2" operands.value2

/-- The parts of a text that names the members of a list. -/
def listed (delimiter : Option String) (text : String) : Except Fault (List String) :=
  let parts := match delimiter with
    | none => some (Text.splitAtBlanks text.toList)
    | some delimiter => Text.splitOn? delimiter.toList text.toList
  match parts with
  | none => .error .emptySeparator
  | some parts =>
      .ok (((parts.map (Text.trimWhile Text.isBlank)).filter (!·.isEmpty)).map String.ofList)

/-- The members of the list that the operand gives: a sequence, a text with delimiters, or a
single value. -/
def members (operands : Operands) : Except Fault (List Value) :=
  match operands.value with
  | .null => .ok []
  | .list items | .tuple items => .ok items
  | .text text => (listed operands.delimiter text).map (·.map .text)
  | value => .ok [value]

end Operands

/-- The values that can be read as a type; the others are passed over. -/
def readable (type : ValueType) : List Value → Except Fault (List Subject)
  | [] => .ok []
  | item :: items =>
      match type.read item with
      | .ok subject => (readable type items).map (subject :: ·)
      | .error (.issue _) => readable type items
      | .error (.fault fault) => .error fault

/-- Whether a relation holds between a subject and its operand. -/
def Comparison.holds (comparison : Comparison) (subject operand : Subject) : Bool :=
  match comparison with
  | equal => subject.same operand
  | different => !subject.same operand
  | greater | after => operand.less subject
  | atLeast => !subject.less operand
  | less | before => subject.less operand
  | atMost => !operand.less subject
  | containing =>
      match subject, operand with
      | .text text, .text part => Text.containsPart part.toList text.toList
      | _, _ => false
  | starting =>
      match subject, operand with
      | .text text, .text part => (Text.dropStart? part.toList text.toList).isSome
      | _, _ => false
  | ending =>
      match subject, operand with
      | .text text, .text part =>
          (Text.dropStart? part.toList.reverse text.toList.reverse).isSome
      | _, _ => false

/-- A fault while a condition is tested ends the test; a refused value makes it fail. -/
def Coerced.outcome (result : Coerced Outcome) : Except Fault Outcome :=
  match result with
  | .ok outcome => .ok outcome
  | .error (.issue issue) => .ok (.fails (.unreadable issue))
  | .error (.fault fault) => .error fault

/-- Lifts a computation that reads no value. -/
def Coerced.ofExcept {α : Type} (result : Except Fault α) : Coerced α :=
  result.mapError .fault

/-- A subject against its operand. -/
def checkRelation (type : ValueType) (comparison : Comparison) (operands : Operands)
    (subject : Subject) : Coerced Outcome := do
  let operand ← operands.first type
  return .ofTest (comparison.holds subject operand) (.unrelated subject comparison operand)

/-- A subject against two bounds, in either order. -/
def checkBetween (type : ValueType) (operands : Operands) (subject : Subject) :
    Coerced Outcome := do
  let first ← operands.first type
  let second ← operands.second type
  let (low, high) := if second.less first then (second, first) else (first, second)
  return .ofTest (!subject.less low && !high.less subject) (.outside subject low high)

/-- Whether a subject is a member of the list that the operand gives. -/
def isMember (type : ValueType) (operands : Operands) (subject : Subject) : Except Fault Bool := do
  let members ← operands.members
  let subjects ← readable type members
  return subjects.any subject.same

/-- A subject against a pattern. -/
def checkPattern (operand : Value) (subject : Subject) : Except Fault Outcome :=
  match operand, subject with
  | .text pattern, .text text =>
      if pattern.isEmpty then .ok (.fails .noPattern)
      else match Pattern.ofChars pattern.toList with
        | .ok compiled =>
            .ok (.ofTest (compiled.occursIn text.toList) (.unmatched subject pattern))
        | .error (.defect defect) => .ok (.fails (.badPattern (defect.text pattern.toList)))
        | .error .repetitionTooLarge => .error .repetitionTooLarge
        | .error (.numeralTooLong digits) => .error (.numeralTooLong digits)
        | .error .codePointTooLarge => .error .codePointTooLarge
        | .error .twoAlphabets => .error .twoAlphabets
        | .error .lookBehindTooWide => .error .lookBehindTooWide
  | _, _ => .ok (.fails .noPattern)

/-- Why a value that is not present fails a condition. -/
def missingReason (candidate : Value) : Reason :=
  if candidate.isAbsent then .absent else .null

/-- Whether a value is missing or has only blanks as its text. -/
def isBlankValue (candidate : Value) : Coerced Bool :=
  if candidate.isPresent then (fun text => (Text.trim text).isEmpty) <$> candidate.toText
  else .ok true

namespace Operator

/-- The relation that a comparing operator asks for. -/
def comparison? : Operator → Option Comparison
  | eq => some .equal
  | neq => some .different
  | gt => some .greater
  | gte => some .atLeast
  | lt => some .less
  | lte => some .atMost
  | before => some .before
  | after => some .after
  | contains => some .containing
  | startsWith => some .starting
  | endsWith => some .ending
  | _ => none

/-- Tests a value that has been read as the declared type. -/
def test (operator : Operator) (type : ValueType) (operands : Operands) (subject : Subject) :
    Coerced Outcome :=
  match operator with
  | between => checkBetween type operands subject
  | isIn => do
      let member ← Coerced.ofExcept (isMember type operands subject)
      return .ofTest member (.notListed subject)
  | notIn => do
      let member ← Coerced.ofExcept (isMember type operands subject)
      return .ofTest (!member) (.listed subject)
  | regex => Coerced.ofExcept (checkPattern operands.value subject)
  | operator =>
      match operator.comparison? with
      | some comparison => checkRelation type comparison operands subject
      | none => .ok .holds

/-- Applies an operator of a type to a value. -/
def applyTo (operator : Operator) (type : ValueType) (operands : Operands) (candidate : Value) :
    Except Fault Outcome :=
  if !type.allows operator then .ok (.fails (.undefined operator type))
  else match operator with
    | «exists» => .ok (.ofTest candidate.isPresent (missingReason candidate))
    | notExists => .ok (.ofTest (!candidate.isPresent) (.present candidate))
    | empty => Coerced.outcome do
        let blank ← isBlankValue candidate
        return .ofTest blank (.notEmpty candidate)
    | notEmpty => Coerced.outcome do
        let blank ← isBlankValue candidate
        return .ofTest (!blank) .empty
    | operator =>
        if !candidate.isPresent then .ok (.fails (missingReason candidate))
        else Coerced.outcome do
          let subject ← type.read candidate
          operator.test type operands subject

end Operator

end Rulebook
