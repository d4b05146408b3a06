import Rulebook.Proofs.Condition.Stopping
import Rulebook.Proofs.Evaluation.Steps

/-!
# Faults of evaluations

What stops an evaluation is a value that it cannot work with: an index or a number that cannot be
read, a value without a text, or a pattern that cannot be carried out.  A rejection is no such
fault; rules that are loaded are not rejected any more.
-/

namespace Rulebook

/-- Whether a fault is one of those that stop evaluations. -/
def Fault.StopsEvaluation : Fault → Prop
  | badIndex _ | numeralTooLong _ | integerTooLong | emptySeparator | repetitionTooLarge
  | codePointTooLarge | twoAlphabets | lookBehindTooWide => True
  | _ => False

/-- Whether a computation stops only as evaluations do. -/
abbrev StopsSoundly {α : Type} (result : Except Fault α) : Prop :=
  StopsOnly Fault.StopsEvaluation result

/-! ## Values and paths -/

theorem Value.stopsSoundly_literal (value : Value) : StopsSoundly value.literal :=
  .elim (StopsOnly.error_iff.mpr trivial) .ok

theorem Value.stopsSoundly_plain (value : Value) : StopsSoundly value.plain :=
  .elim (StopsOnly.error_iff.mpr trivial) .ok

theorem Value.stopsSoundly_child (current : Value) (key : String) :
    StopsSoundly (current.child key) := by
  have atIndex (items : List Value) : StopsSoundly (atIndex items key) := by
    unfold Value.atIndex
    split <;> simp [Fault.StopsEvaluation]
  cases current with
  | list items | tuple items =>
      rw [Value.child]
      split
      · exact atIndex items
      · exact .ok _
  | _ => exact .ok _

theorem Path.stopsSoundly_ofValue (value : Value) : StopsSoundly (ofValue value) := by
  refine StopsOnly.map ?_ _
  rw [textOf]
  split
  · exact value.stopsSoundly_plain
  · exact .ok _

theorem Path.stopsSoundly_resolve (representative : Bool) (path : Path) (current : Value) :
    StopsSoundly (path.resolve representative current) := by
  induction path generalizing current with
  | nil => exact .ok _
  | cons segment path ih =>
      refine (current.stopsSoundly_child segment.key).bind fun value _ => ?_
      dsimp only
      split
      · exact .ok _
      · exact ih _

/-! ## Conditions -/

theorem Pattern.stopsEvaluation_of_fault? {text : String} {fault : Fault}
    (found : Pattern.fault? text = some fault) : fault.StopsEvaluation := by
  rw [Pattern.fault?] at found
  split at found
  · cases found
  · rename_i failure _
    cases failure <;> cases found <;> trivial

theorem stopsSoundly_applyTo (type : ValueType) (operands : Operands) (operator : Operator)
    (candidate : Value) : StopsSoundly (operator.applyTo type operands candidate) := by
  by_cases legal : type.allows operator = true
  · intro fault stopped
    rcases (Operator.applyTo_eq_error_iff legal).mp stopped with
      ⟨-, rfl⟩ | ⟨-, -, pattern, -, found⟩ | ⟨-, rfl⟩
    · trivial
    · exact Pattern.stopsEvaluation_of_fault? found
    · trivial
  · unfold Operator.applyTo
    rw [Bool.eq_false_iff.mpr legal]
    exact .ok _

theorem Condition.stopsSoundly_evaluate (condition : Condition) (settings : Settings)
    (id : String) (document : Value) :
    StopsSoundly (condition.evaluate settings id document) := by
  refine (Path.stopsSoundly_ofValue condition.path).bind fun path _ => ?_
  split
  · exact .ok _
  · exact (path.stopsSoundly_resolve false document).bind fun candidate _ =>
      (stopsSoundly_applyTo _ _ _ candidate).bind fun _ _ => .ok _

/-! ## Rules -/

theorem stopsSoundly_arrayElements (path document : Value) :
    StopsSoundly (arrayElements path document) := by
  refine (Path.stopsSoundly_ofValue path).bind fun path _ => ?_
  split
  · exact .ok _
  · refine (path.stopsSoundly_resolve false document).bind fun value _ => ?_
    split <;> exact .ok _

namespace Quantifier

theorem stopsSoundly_numberText (number : Nat) : StopsSoundly (numberText number) := by
  rw [numberText]
  exact Value.stopsSoundly_literal _

theorem stopsSoundly_failing (quantifier : Quantifier) (total matched : Nat) :
    StopsSoundly (quantifier.failing total matched) := by
  unfold failing
  split
  · exact .ok _
  · exact .ok _
  · exact .ok _
  · exact (stopsSoundly_numberText _).map _
  · exact (stopsSoundly_numberText _).map _
  · exact (stopsSoundly_numberText _).map _
  · split
    · exact .ok _
    · exact (stopsSoundly_numberText _).map _

end Quantifier

theorem Trace.stopsSoundly_ofElements (keep : Bool) (id : String) (path : Value)
    (quantifier : Quantifier) (total : Nat) (elements : List Trace) :
    StopsSoundly (ofElements keep id path quantifier total elements) :=
  (quantifier.stopsSoundly_failing total _).bind fun _ _ => .ok _

namespace RuleNode

variable {settings : Settings}

theorem stopsSoundly_evaluateAll {children : List RuleNode} {document : Value}
    (each : ∀ child ∈ children, StopsSoundly (child.evaluate settings document)) :
    StopsSoundly (evaluateAll settings children document) := by
  rw [evaluateAll_eq_mapM]
  exact .mapM each

/-- An evaluation stops only at a value that it cannot work with. -/
theorem stopsSoundly_evaluate (node : RuleNode) (document : Value) :
    StopsSoundly (node.evaluate settings document) := by
  induction node generalizing document with
  | group id logic children ih =>
      rw [evaluate_group]
      exact (stopsSoundly_evaluateAll fun child member => ih child member document).map _
  | scalar id condition =>
      rw [evaluate]
      exact condition.stopsSoundly_evaluate settings id document
  | array id path quantifier predicateId predicateLogic predicate ih =>
      rw [evaluate_array]
      refine (stopsSoundly_arrayElements path document).bind fun found _ => ?_
      cases found with
      | error failing => exact .ok _
      | ok elements =>
          refine (StopsOnly.mapM fun entry _ => ?_).bind fun traces _ =>
            Trace.stopsSoundly_ofElements _ id path quantifier _ traces
          exact (stopsSoundly_evaluateAll fun child member => ih child member entry.1).map _

end RuleNode

end Rulebook
