import Rulebook.Proofs.Evaluation.Steps
import Rulebook.Proofs.Rule.Canonical

/-!
# Evaluating canonical rules

A rule and its canonical rule are evaluated alike when each of its conditions is.  For a condition
it is enough that its operator tests every value alike against both pairs of operands; operands that
the operator does not read are never looked at.
-/

namespace Rulebook

namespace Operator

/-- An operator looks at its operands only to test a value that has been read. -/
theorem applyTo_congr {operator : Operator} {type : ValueType} {left right : Operands}
    (same : operator.test type left = operator.test type right) :
    operator.applyTo type left = operator.applyTo type right := by
  funext candidate
  unfold applyTo
  split
  · rfl
  · split <;> first | rfl | rw [same]

end Operator

namespace Condition

variable {condition : Condition} {settings : Settings}

/-- Whether the operator of a condition tests alike against the operands of the portable form. -/
def IsKept (condition : Condition) (settings : Settings) : Prop :=
  condition.operator.test condition.type (condition.canonical.operands settings.listDelimiter) =
    condition.operator.test condition.type (condition.operands settings.listDelimiter)

/-- Whether the path of a condition leads to a single value. -/
def HasConcretePath (condition : Condition) : Prop :=
  ∃ path, Path.ofValue condition.path = .ok path ∧ path.isConcrete = true

/-- The operands are of no account when the path does not lead to a single value. -/
theorem finding_canonical (kept : condition.HasConcretePath → condition.IsKept settings)
    (document : Value) :
    condition.canonical.finding settings document = condition.finding settings document := by
  change (Path.ofValue condition.path >>= _) = (Path.ofValue condition.path >>= _)
  cases parsed : Path.ofValue condition.path with
  | error fault => rfl
  | ok path =>
      change (if !path.isConcrete then _ else _) = (if !path.isConcrete then _ else _)
      cases concrete : path.isConcrete with
      | false => rfl
      | true =>
          have same := Operator.applyTo_congr (kept ⟨path, parsed, concrete⟩)
          change (_ >>= fun candidate => (condition.operator.applyTo condition.type
            (condition.canonical.operands settings.listDelimiter) candidate) >>= _) = _
          rw [same]
          rfl

theorem evaluate_canonical (kept : condition.HasConcretePath → condition.IsKept settings)
    (id : String) (document : Value) :
    condition.canonical.evaluate settings id document =
      condition.evaluate settings id document := by
  rw [evaluate_eq_map, evaluate_eq_map, finding_canonical kept]
  rfl

/-- Operands that are their own portable form make no difference. -/
theorem isKept_of_portable (first : condition.value.portable = condition.value)
    (second : condition.value2.portable = condition.value2) : condition.IsKept settings := by
  obtain ⟨path, type, operator, value, value2, legal⟩ := condition
  dsimp only at first second
  funext subject
  cases operator <;>
    simp [canonical, operands, Value.canonicalIf, Operator.readsValue, Operator.readsSecondValue,
      Operator.test, checkRelation, checkBetween, isMember, Operands.members, Operands.first,
      Operands.second, Operator.comparison?, first, second]

end Condition

namespace RuleNode

variable {settings : Settings}

theorem evaluateAll_mapConditionsAll {view : Condition → Condition} {children : List RuleNode}
    (each : ∀ child ∈ children, ∀ document,
      (child.mapConditions view).evaluate settings document = child.evaluate settings document) :
    evaluateAll settings (mapConditionsAll view children) = evaluateAll settings children := by
  induction children with
  | nil => rfl
  | cons child rest ih =>
      funext document
      have later := ih fun node member => each node (List.mem_cons_of_mem _ member)
      rw [mapConditionsAll, evaluateAll, evaluateAll, each child List.mem_cons_self, later]

/-- A change of conditions that are evaluated alike makes no difference to a rule. -/
theorem evaluate_mapConditions {view : Condition → Condition} {node : RuleNode}
    (same : ∀ id condition, scalar id condition ∈ node.nodes → ∀ document,
      (view condition).evaluate settings id document = condition.evaluate settings id document)
    (document : Value) :
    (node.mapConditions view).evaluate settings document = node.evaluate settings document := by
  induction node generalizing document with
  | group id logic children ih =>
      have below := evaluateAll_mapConditionsAll fun child member =>
        ih child member fun id condition inside =>
          same id condition (mem_nodes_group.mpr (.inr ⟨child, member, inside⟩))
      rw [mapConditions, evaluate_group, evaluate_group, below]
  | scalar id condition => exact same id condition (self_mem_nodes _) document
  | array id path quantifier predicateId predicateLogic predicate ih =>
      have below := evaluateAll_mapConditionsAll fun child member =>
        ih child member fun id condition inside =>
          same id condition (mem_nodes_array.mpr (.inr (.inr ⟨child, member, inside⟩)))
      have elements : evaluateElement settings predicateId predicateLogic
          (mapConditionsAll view predicate) =
            evaluateElement settings predicateId predicateLogic predicate := by
        funext entry
        rw [evaluateElement, evaluateElement, below]
      rw [mapConditions, evaluate_array, evaluate_array, elements]

/-- A rule in which every condition is kept is evaluated like its canonical rule. -/
theorem evaluate_canonical {node : RuleNode}
    (kept : ∀ id condition, scalar id condition ∈ node.nodes →
      condition.HasConcretePath → condition.IsKept settings)
    (document : Value) :
    node.canonical.evaluate settings document = node.evaluate settings document := by
  rw [canonical_eq_mapConditions]
  refine evaluate_mapConditions (fun id condition inside => ?_) document
  exact condition.evaluate_canonical (kept id condition inside) id

end RuleNode

end Rulebook
