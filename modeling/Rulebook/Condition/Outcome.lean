import Rulebook.Condition.Coercion

/-!
# Outcomes of conditions

A condition holds, or it fails for a reason.
-/

namespace Rulebook

/-- The relation of a subject to its operand that a condition asks for. -/
inductive Comparison where
  | equal
  | different
  | greater
  | atLeast
  | less
  | atMost
  | before
  | after
  | containing
  | starting
  | ending
  deriving DecidableEq, Repr

/-- The words for a relation in reasons. -/
def Comparison.label : Comparison → String
  | equal => "equal to"
  | different => "different from"
  | greater => "greater than"
  | atLeast => "at least"
  | less => "less than"
  | atMost => "at most"
  | before => "before"
  | after => "after"
  | containing => "containing"
  | starting => "starting with"
  | ending => "ending with"

/-- Why a condition fails. -/
inductive Reason where
  /-- The operator does not belong to the declared type. -/
  | undefined (operator : Operator) (type : ValueType)
  | absent
  | null
  | present (value : Value)
  | empty
  | notEmpty (value : Value)
  | unreadable (issue : CoercionIssue)
  | unrelated (subject : Subject) (comparison : Comparison) (operand : Subject)
  | outside (subject low high : Subject)
  | notListed (subject : Subject)
  | listed (subject : Subject)
  | noPattern
  /-- The operand is no pattern; `defect` says why. -/
  | badPattern (defect : String)
  | unmatched (subject : Subject) (pattern : String)
  deriving Repr

/-- The text of a reason. -/
def Reason.message : Reason → String
  | undefined operator type =>
      "operator " ++ operator.name ++ " is not defined for " ++ type.name
  | absent => "value is absent"
  | null => "value is null"
  | present value => "value is present: " ++ value.describe
  | empty => "value is empty"
  | notEmpty value => "value is not empty: " ++ value.describe
  | unreadable issue => issue.message
  | unrelated subject comparison operand =>
      subject.describe ++ " is not " ++ comparison.label ++ " " ++ operand.describe
  | outside subject low high =>
      subject.describe ++ " is not between " ++ low.describe ++ " and " ++ high.describe
  | notListed subject => subject.describe ++ " is not in the list"
  | listed subject => subject.describe ++ " is in the list"
  | noPattern => "no pattern configured"
  | badPattern defect => "invalid pattern: " ++ defect
  | unmatched subject pattern =>
      subject.describe ++ " does not match /" ++ pattern ++ "/"

/-- The result of a condition. -/
inductive Outcome where
  | holds
  | fails (reason : Reason)
  deriving Repr

namespace Outcome

/-- Whether the condition holds. -/
def matched : Outcome → Bool
  | holds => true
  | fails _ => false

/-- The text of the reason of a failure. -/
def message? : Outcome → Option String
  | holds => none
  | fails reason => some reason.message

/-- The outcome of a test with the reason for its failure. -/
def ofTest (test : Bool) (reason : Reason) : Outcome :=
  if test then holds else fails reason

end Outcome

end Rulebook
