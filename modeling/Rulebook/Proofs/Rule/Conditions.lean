import Rulebook.Proofs.Rule.Induction
import Rulebook.Rule.Portable

/-!
# Changed conditions

A rule whose conditions are changed one by one, all else in it staying as it is.
-/

namespace Rulebook.RuleNode

mutual

/-- A rule with its conditions changed. -/
def mapConditions (view : Condition → Condition) : RuleNode → RuleNode
  | group id logic children => group id logic (mapConditionsAll view children)
  | scalar id condition => scalar id (view condition)
  | array id path quantifier predicateId predicateLogic predicate =>
      array id path quantifier predicateId predicateLogic (mapConditionsAll view predicate)

/-- Several rules with their conditions changed. -/
def mapConditionsAll (view : Condition → Condition) : List RuleNode → List RuleNode
  | [] => []
  | node :: rest => mapConditions view node :: mapConditionsAll view rest

end

variable {view : Condition → Condition}

theorem mapConditionsAll_eq_map (children : List RuleNode) :
    mapConditionsAll view children = children.map (mapConditions view) := by
  induction children with
  | nil => rfl
  | cons child rest ih => rw [mapConditionsAll, ih, List.map_cons]

theorem mapConditions_self (node : RuleNode) :
    node.mapConditions (fun condition => condition) = node := by
  induction node with
  | group id logic children ih =>
      rw [mapConditions, mapConditionsAll_eq_map, List.map_congr_left ih, List.map_id']
  | scalar id condition => rfl
  | array id path quantifier predicateId predicateLogic predicate ih =>
      rw [mapConditions, mapConditionsAll_eq_map, List.map_congr_left ih, List.map_id']

/-- Only a group looks like a group once conditions are changed. -/
theorem exists_group_of_mapConditions {node : RuleNode} {id : String} {logic : Logic}
    {children : List RuleNode}
    (same : node.mapConditions view = (group id logic children).mapConditions view) :
    ∃ others, node = group id logic others ∧
      mapConditionsAll view others = mapConditionsAll view children := by
  cases node with
  | group otherId otherLogic others =>
      simp only [mapConditions, RuleNode.group.injEq] at same
      obtain ⟨rfl, rfl, below⟩ := same
      exact ⟨others, rfl, below⟩
  | scalar => cases same
  | array => cases same

theorem portableAll_eq_map (children : List RuleNode) :
    portableAll children = children.map portable := by
  induction children with
  | nil => rfl
  | cons child rest ih => rw [portableAll, ih, List.map_cons]

theorem portableAll_mapConditionsAll {children : List RuleNode}
    (same : ∀ child ∈ children, (child.mapConditions view).portable = child.portable) :
    portableAll (mapConditionsAll view children) = portableAll children := by
  rw [mapConditionsAll_eq_map, portableAll_eq_map, portableAll_eq_map, List.map_map]
  exact List.map_congr_left same

/-- A change that the portable forms of conditions do not show is not shown by that of a rule. -/
theorem portable_mapConditions (same : ∀ condition, (view condition).portable = condition.portable)
    (node : RuleNode) : (node.mapConditions view).portable = node.portable := by
  induction node with
  | group id logic children ih =>
      rw [mapConditions, portable, portable, portableAll_mapConditionsAll ih]
  | scalar id condition => rw [mapConditions, portable, portable, same]
  | array id path quantifier predicateId predicateLogic predicate ih =>
      rw [mapConditions, portable, portable, portableAll_mapConditionsAll ih]

end Rulebook.RuleNode
