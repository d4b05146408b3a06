import Rulebook.Proofs.Rule.Conditions
import Rulebook.Rule.Session

/-!
# Canonical rules

Loading the portable form of a rule gives the rule back, up to two changes.  Its operands are those
of the portable form, which leaves out the ones that no operator reads, and its identities are the
next ones of the session, a node before the nodes below it.
-/

namespace Rulebook

namespace Value

/-- The portable form is plain already. -/
@[simp]
theorem portable_portable (value : Value) : value.portable.portable = value.portable := by
  cases value <;> simp [portable]

end Value

/-- The operand that the portable form of a condition gives back: null when it leaves it out. -/
def Value.canonicalIf (reads : Bool) (operand : Value) : Value :=
  if reads then operand.portable else .null

namespace Condition

/-- The condition with the operands of its portable form. -/
def canonical (condition : Condition) : Condition :=
  { condition with
    value := condition.value.canonicalIf condition.operator.readsValue
    value2 := condition.value2.canonicalIf condition.operator.readsSecondValue }

theorem portable_canonical (condition : Condition) :
    condition.canonical.portable = condition.portable := by
  obtain ⟨path, type, operator, value, value2, legal⟩ := condition
  cases operator <;>
    simp [portable, canonical, Value.canonicalIf, Operator.readsValue, Operator.readsSecondValue]

end Condition

namespace RuleNode

mutual

/-- The rule with the operands of its portable form. -/
def canonical : RuleNode → RuleNode
  | group id logic children => group id logic (canonicalAll children)
  | scalar id condition => scalar id condition.canonical
  | array id path quantifier predicateId predicateLogic predicate =>
      array id path quantifier predicateId predicateLogic (canonicalAll predicate)

/-- Several rules with the operands of their portable forms. -/
def canonicalAll : List RuleNode → List RuleNode
  | [] => []
  | node :: rest => canonical node :: canonicalAll rest

end

theorem canonicalAll_eq_map (children : List RuleNode) :
    canonicalAll children = children.map canonical := by
  induction children with
  | nil => rfl
  | cons child rest ih => rw [canonicalAll, ih, List.map_cons]

theorem canonical_eq_mapConditions (node : RuleNode) :
    node.canonical = node.mapConditions Condition.canonical := by
  induction node with
  | group id logic children ih =>
      rw [canonical, mapConditions, canonicalAll_eq_map, mapConditionsAll_eq_map,
        List.map_congr_left ih]
  | scalar id condition => rfl
  | array id path quantifier predicateId predicateLogic predicate ih =>
      rw [canonical, mapConditions, canonicalAll_eq_map, mapConditionsAll_eq_map,
        List.map_congr_left ih]

theorem portable_canonical (node : RuleNode) : node.canonical.portable = node.portable := by
  rw [canonical_eq_mapConditions, portable_mapConditions Condition.portable_canonical]

@[simp]
theorem isGroup_canonical (node : RuleNode) : node.canonical.isGroup = node.isGroup := by
  cases node <;> rfl

/-! ## Identities of a session -/

end RuleNode

/-- A session after one more identity. -/
def Session.advance (session : Session) : Session :=
  { session with issued := session.issued + 1 }

/-- The identity that a session issues next. -/
def Session.next (session : Session) : String := session.idAt (session.issued + 1)

namespace RuleNode

mutual

/-- The same rule with the next identities of a session, and the session after them. -/
def renumber : RuleNode → (session : Session) → RuleNode × Session
  | group _ logic children, session =>
      let (children, later) := renumberAll children session.advance
      (group session.next logic children, later)
  | scalar _ condition, session => (scalar session.next condition, session.advance)
  | array _ path quantifier _ predicateLogic predicate, session =>
      let (predicate, later) := renumberAll predicate session.advance.advance
      (array session.next path quantifier session.advance.next predicateLogic predicate, later)

/-- Several rules with the next identities of a session, one after the other. -/
def renumberAll : List RuleNode → (session : Session) → List RuleNode × Session
  | [], session => ([], session)
  | node :: rest, session =>
      let (node, later) := renumber node session
      let (rest, last) := renumberAll rest later
      (node :: rest, last)

end

theorem renumberAll_canonicalAll {children : List RuleNode}
    (each : ∀ child ∈ children, ∀ session,
      child.canonical.renumber session =
        ((child.renumber session).1.canonical, (child.renumber session).2)) (session : Session) :
    renumberAll (canonicalAll children) session =
      (canonicalAll (renumberAll children session).1, (renumberAll children session).2) := by
  induction children generalizing session with
  | nil => rfl
  | cons child rest ih =>
      have later := ih (fun node member => each node (List.mem_cons_of_mem _ member))
      simp only [canonicalAll, renumberAll, each child List.mem_cons_self, later]

/-- Identities and operands are changed independently. -/
theorem renumber_canonical (node : RuleNode) (session : Session) :
    node.canonical.renumber session =
      ((node.renumber session).1.canonical, (node.renumber session).2) := by
  induction node generalizing session with
  | group id logic children ih =>
      simp only [canonical, renumber, renumberAll_canonicalAll ih]
  | scalar id condition => rfl
  | array id path quantifier predicateId predicateLogic predicate ih =>
      simp only [canonical, renumber, renumberAll_canonicalAll ih]

theorem portableAll_renumberAll {children : List RuleNode}
    (same : ∀ child ∈ children, ∀ session,
      (child.renumber session).1.portable = child.portable) (session : Session) :
    portableAll (renumberAll children session).1 = portableAll children := by
  induction children generalizing session with
  | nil => rfl
  | cons child rest ih =>
      have later := ih fun node member => same node (List.mem_cons_of_mem _ member)
      simp only [renumberAll, portableAll, same child List.mem_cons_self, later]

/-- The portable form has no identities. -/
@[simp]
theorem portable_renumber (node : RuleNode) (session : Session) :
    (node.renumber session).1.portable = node.portable := by
  induction node generalizing session with
  | group id logic children ih =>
      simp only [renumber, portable, portableAll_renumberAll ih]
  | scalar id condition => rfl
  | array id path quantifier predicateId predicateLogic predicate ih =>
      simp only [renumber, portable, portableAll_renumberAll ih]

end RuleNode

end Rulebook
