import Mathlib.Data.List.Nodup
import Rulebook.Proofs.Editing.Identities

/-!
# Places in rules

A node of a rule is found by the way that leads to it: its position among the nodes directly below
the one before.  The nodes of a rule are those at its places, and in a rule with distinct
identities no two places have a node of the same identity.
-/

namespace Rulebook.RuleNode

/-- The nodes directly below a node; an array rule has its predicate there, as a group. -/
def subnodes : RuleNode → List RuleNode
  | group _ _ children => children
  | scalar .. => []
  | array _ _ _ predicateId predicateLogic predicate =>
      [group predicateId predicateLogic predicate]

/-- The node at a place: the positions on the way to it from the root. -/
def at? : RuleNode → (place : List Nat) → Option RuleNode
  | node, [] => some node
  | node, position :: place => node.subnodes[position]?.bind fun child => child.at? place

@[simp]
theorem at?_nil (node : RuleNode) : node.at? [] = some node := rfl

theorem at?_cons (node : RuleNode) (position : Nat) (place : List Nat) :
    node.at? (position :: place) = node.subnodes[position]?.bind fun child => child.at? place := rfl

theorem at?_cons_eq_some {node found : RuleNode} {position : Nat} {place : List Nat} :
    node.at? (position :: place) = some found ↔
      ∃ child, node.subnodes[position]? = some child ∧ child.at? place = some found := by
  rw [at?_cons, Option.bind_eq_some_iff]

/-- Two ways, one behind the other, are one way. -/
theorem at?_append (node : RuleNode) (first second : List Nat) :
    node.at? (first ++ second) = (node.at? first).bind fun child => child.at? second := by
  induction first generalizing node with
  | nil => rfl
  | cons position first ih =>
      rw [List.cons_append, at?_cons, at?_cons]
      cases node.subnodes[position]? with
      | none => rfl
      | some child => exact ih child

/-! ## The nodes at the places -/

theorem nodes_eq_cons_subnodes (node : RuleNode) : node.nodes = node :: node.subnodes.flatMap nodes := by
  cases node with
  | group id logic children => rw [nodes, nodesOf_eq_flatMap, subnodes]
  | scalar id condition => rfl
  | array id path quantifier predicateId predicateLogic predicate =>
      rw [nodes, subnodes, List.flatMap_singleton, nodes]

theorem ids_eq_cons_subnodes (node : RuleNode) : node.ids = node.id :: node.subnodes.flatMap ids := by
  rw [ids, nodes_eq_cons_subnodes, List.map_cons, List.map_flatMap]
  rfl

/-- Induction on rules, with the hypothesis for every node directly below; the predicate of an
array rule is one of them. -/
theorem subnode_induction {motive : RuleNode → Prop}
    (step : ∀ node, (∀ child ∈ node.subnodes, motive child) → motive node) (node : RuleNode) :
    motive node := by
  induction node with
  | group id logic children ih => exact step _ ih
  | scalar id condition => exact step _ fun child member => by cases member
  | array id path quantifier predicateId predicateLogic predicate ih =>
      refine step _ fun child member => ?_
      cases List.mem_singleton.mp member
      exact step _ ih

theorem mem_nodes_of_at? {root node : RuleNode} {place : List Nat}
    (here : root.at? place = some node) : node ∈ root.nodes := by
  induction place generalizing root with
  | nil =>
      cases here
      exact self_mem_nodes _
  | cons position place ih =>
      obtain ⟨child, directly, here⟩ := at?_cons_eq_some.mp here
      rw [nodes_eq_cons_subnodes]
      exact List.mem_cons_of_mem _
        (List.mem_flatMap.mpr ⟨child, List.mem_of_getElem? directly, ih here⟩)

/-- Every node of a rule has a place. -/
theorem exists_at?_of_mem_nodes {root node : RuleNode} (member : node ∈ root.nodes) :
    ∃ place, root.at? place = some node := by
  induction root using subnode_induction with
  | step root ih =>
      rw [nodes_eq_cons_subnodes] at member
      rcases List.mem_cons.mp member with rfl | member
      · exact ⟨[], rfl⟩
      · obtain ⟨child, directly, inside⟩ := List.mem_flatMap.mp member
        obtain ⟨position, here⟩ := List.getElem?_of_mem directly
        obtain ⟨place, found⟩ := ih child directly inside
        exact ⟨position :: place, at?_cons_eq_some.mpr ⟨child, here, found⟩⟩

/-! ## Distinct identities -/

theorem nodup_ids_of_mem_subnodes {node child : RuleNode} (distinct : node.ids.Nodup)
    (member : child ∈ node.subnodes) : child.ids.Nodup := by
  rw [ids_eq_cons_subnodes, List.nodup_cons] at distinct
  exact (List.nodup_flatMap.mp distinct.2).1 child member

/-- No node below the root has the identity of the root. -/
theorem id_ne_of_at?_cons {root node : RuleNode} {position : Nat} {place : List Nat}
    (distinct : root.ids.Nodup) (here : root.at? (position :: place) = some node) :
    node.id ≠ root.id := by
  obtain ⟨child, directly, below⟩ := at?_cons_eq_some.mp here
  rw [ids_eq_cons_subnodes, List.nodup_cons] at distinct
  intro same
  have member : child ∈ root.subnodes := List.mem_of_getElem? directly
  have listed : node.id ∈ child.ids := List.mem_map_of_mem (mem_nodes_of_at? below)
  exact distinct.1 (List.mem_flatMap.mpr ⟨child, member, same ▸ listed⟩)

/-- Two nodes directly below a node have no identity in common. -/
theorem position_unique {node child other : RuleNode} {first second : Nat} {id : String}
    (distinct : node.ids.Nodup) (here : node.subnodes[first]? = some child)
    (there : node.subnodes[second]? = some other) (one : id ∈ child.ids)
    (also : id ∈ other.ids) : first = second := by
  rw [ids_eq_cons_subnodes, List.nodup_cons, List.nodup_flatMap] at distinct
  have apart := List.pairwise_iff_getElem.mp distinct.2.2
  obtain ⟨inside, rfl⟩ := List.getElem?_eq_some_iff.mp here
  obtain ⟨inside', rfl⟩ := List.getElem?_eq_some_iff.mp there
  by_contra different
  rcases Nat.lt_or_gt_of_ne different with before | before
  · exact apart first second inside inside' before one also
  · exact apart second first inside' inside before also one

/-- In a rule with distinct identities there is one place for each of them. -/
theorem place_unique {root node other : RuleNode} {first second : List Nat}
    (distinct : root.ids.Nodup) (here : root.at? first = some node)
    (there : root.at? second = some other) (same : node.id = other.id) : first = second := by
  induction first generalizing root second with
  | nil =>
      cases second with
      | nil => rfl
      | cons position second =>
          cases here
          exact (id_ne_of_at?_cons distinct there same.symm).elim
  | cons position first ih =>
      cases second with
      | nil =>
          cases there
          exact (id_ne_of_at?_cons distinct here same).elim
      | cons position' second =>
          obtain ⟨child, directly, below⟩ := at?_cons_eq_some.mp here
          obtain ⟨child', directly', below'⟩ := at?_cons_eq_some.mp there
          have one : node.id ∈ child.ids := List.mem_map_of_mem (mem_nodes_of_at? below)
          have also : other.id ∈ child'.ids := List.mem_map_of_mem (mem_nodes_of_at? below')
          -- Both ways go through the same child, so the rest of them is below one rule.
          obtain rfl := position_unique distinct directly directly' one (same ▸ also)
          cases directly.symm.trans directly'
          have own := nodup_ids_of_mem_subnodes distinct (List.mem_of_getElem? directly)
          rw [ih own below below']

end Rulebook.RuleNode
