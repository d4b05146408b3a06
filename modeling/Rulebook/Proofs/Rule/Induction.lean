import Rulebook.Rule.Walk

/-!
# Induction on rules

A rule is proved to have a property from the leaves up: the children of a group, and likewise the
rules in the predicate of an array rule, have it before the rule itself.  Functions on lists of
rules that go through the list are stated through the function on single rules.
-/

namespace Rulebook.RuleNode

/-- Induction on rules, with the hypothesis for every rule directly below. -/
@[elab_as_elim, induction_eliminator]
theorem induction {motive : RuleNode → Prop}
    (group : ∀ id logic children, (∀ child ∈ children, motive child) →
      motive (group id logic children))
    (scalar : ∀ id condition, motive (scalar id condition))
    (array : ∀ id path quantifier predicateId predicateLogic predicate,
      (∀ child ∈ predicate, motive child) →
        motive (array id path quantifier predicateId predicateLogic predicate))
    (node : RuleNode) : motive node := by
  refine RuleNode.rec (motive_2 := fun nodes => ∀ child ∈ nodes, motive child)
    group scalar array ?_ ?_ node
  · intro child member
    cases member
  · intro head tail headHas tailHas child member
    rcases List.mem_cons.mp member with rfl | member
    · exact headHas
    · exact tailHas child member

theorem nodesOf_eq_flatMap (children : List RuleNode) :
    nodesOf children = children.flatMap nodes := by
  induction children with
  | nil => rfl
  | cons child rest ih => rw [nodesOf, ih, List.flatMap_cons]

theorem self_mem_nodes (node : RuleNode) : node ∈ node.nodes := by
  cases node <;> simp [nodes]

theorem mem_nodes_group {id : String} {logic : Logic} {children : List RuleNode}
    {node : RuleNode} :
    node ∈ (group id logic children).nodes ↔
      node = group id logic children ∨ ∃ child ∈ children, node ∈ child.nodes := by
  simp [nodes, nodesOf_eq_flatMap]

theorem mem_nodes_array {id : String} {path : Value} {quantifier : Quantifier}
    {predicateId : String} {predicateLogic : Logic} {predicate : List RuleNode}
    {node : RuleNode} :
    node ∈ (array id path quantifier predicateId predicateLogic predicate).nodes ↔
      node = array id path quantifier predicateId predicateLogic predicate ∨
        node = group predicateId predicateLogic predicate ∨
          ∃ child ∈ predicate, node ∈ child.nodes := by
  simp [nodes, nodesOf_eq_flatMap]

theorem mem_nodes_of_mem_children {id : String} {logic : Logic} {children : List RuleNode}
    {child : RuleNode} (member : child ∈ children) : child ∈ (group id logic children).nodes :=
  mem_nodes_group.mpr (.inr ⟨child, member, self_mem_nodes child⟩)

theorem mem_nodes_of_mem_predicate {id : String} {path : Value} {quantifier : Quantifier}
    {predicateId : String} {predicateLogic : Logic} {predicate : List RuleNode}
    {child : RuleNode} (member : child ∈ predicate) :
    child ∈ (array id path quantifier predicateId predicateLogic predicate).nodes :=
  mem_nodes_array.mpr (.inr (.inr ⟨child, member, self_mem_nodes child⟩))

theorem mem_nodes_trans {node sub other : RuleNode} (inner : other ∈ sub.nodes)
    (outer : sub ∈ node.nodes) : other ∈ node.nodes := by
  induction node with
  | group id logic children ih =>
      rcases mem_nodes_group.mp outer with rfl | ⟨child, member, below⟩
      · exact inner
      · exact mem_nodes_group.mpr (.inr ⟨child, member, ih child member below⟩)
  | scalar id condition =>
      cases List.mem_singleton.mp outer
      exact inner
  | array id path quantifier predicateId predicateLogic predicate ih =>
      rcases mem_nodes_array.mp outer with rfl | rfl | ⟨child, member, below⟩
      · exact inner
      · rcases mem_nodes_group.mp inner with rfl | ⟨child, member, below⟩
        · exact mem_nodes_array.mpr (.inr (.inl rfl))
        · exact mem_nodes_array.mpr (.inr (.inr ⟨child, member, below⟩))
      · exact mem_nodes_array.mpr (.inr (.inr ⟨child, member, ih child member below⟩))

end Rulebook.RuleNode
