import Mathlib.Algebra.BigOperators.Group.List.Basic
import Mathlib.Algebra.Order.Group.Multiset
import Mathlib.Data.Multiset.Bind
import Mathlib.Tactic.Abel
import Rulebook.Proofs.Editing.Children

/-!
# Cards

The card of a node tells what it is by itself and which identities are directly below it.  In a tree
with distinct identities a group can be given other children without a change to the cards outside
of it; so taking a node out and putting a node in each change one card.
-/

namespace Rulebook.RuleNode

/-- A node without what is below it. -/
def bare : RuleNode → RuleNode
  | group id logic _ => group id logic []
  | scalar id condition => scalar id condition
  | array id path quantifier predicateId predicateLogic _ =>
      array id path quantifier predicateId predicateLogic []

/-- The identities of the nodes directly below a node. -/
def childIds : RuleNode → List String
  | group _ _ children => children.map id
  | scalar .. => []
  | array _ _ _ predicateId .. => [predicateId]

/-- What a node is by itself, with the identities directly below it. -/
def card (node : RuleNode) : RuleNode × List String := (node.bare, node.childIds)

/-- The cards of the nodes of a rule. -/
def cards (root : RuleNode) : Multiset (RuleNode × List String) :=
  Multiset.map card root.nodes

theorem coe_map_card_nodesOf (children : List RuleNode) :
    Multiset.map card (nodesOf children) = (children.map cards).sum := by
  induction children with
  | nil => rfl
  | cons child rest ih =>
      rw [nodesOf, ← Multiset.coe_add, Multiset.map_add, ih, List.map_cons, List.sum_cons, cards]

theorem cards_group (id : String) (logic : Logic) (children : List RuleNode) :
    (group id logic children).cards =
      (group id logic [], children.map RuleNode.id) ::ₘ (children.map cards).sum := by
  rw [← coe_map_card_nodesOf]
  rfl

theorem cards_array (id : String) (path : Value) (quantifier : Quantifier)
    (predicateId : String) (predicateLogic : Logic) (predicate : List RuleNode) :
    (array id path quantifier predicateId predicateLogic predicate).cards =
      (array id path quantifier predicateId predicateLogic [], [predicateId]) ::ₘ
        (group predicateId predicateLogic predicate).cards := by
  rfl

theorem sum_map_cards_perm {children others : List RuleNode} (same : children.Perm others) :
    (children.map cards).sum = (others.map cards).sum :=
  (same.map cards).sum_eq

/-- A node that is no group keeps its card and a group keeps all of it but its children; the frame
of a group in a tree is what its children do not touch. -/
theorem exists_frame_group {container id : String} {logic inner : Logic}
    {children old : List RuleNode} (distinct : (group id logic children).ids.Nodup)
    (each : ∀ child ∈ children, child.ids.Nodup → group container inner old ∈ child.nodes →
      ∃ frame, ∀ fresh, (child.setChildren container fresh).cards =
        (group container inner [], fresh.map RuleNode.id) ::ₘ (frame + (fresh.map cards).sum))
    (located : group container inner old ∈ (group id logic children).nodes) :
    ∃ frame, ∀ fresh, ((group id logic children).setChildren container fresh).cards =
      (group container inner [], fresh.map RuleNode.id) ::ₘ (frame + (fresh.map cards).sum) := by
  rw [ids_group, List.nodup_cons] at distinct
  rcases mem_nodes_group.mp located with same | ⟨child, member, inside⟩
  · cases same
    refine ⟨0, fun fresh => ?_⟩
    rw [setChildren_group, childrenAfter, if_pos rfl, cards_group, zero_add]
  · obtain ⟨before, after, rfl⟩ := List.append_of_mem member
    have own : child.ids.Nodup := (List.nodup_flatMap.mp distinct.2).1 child (by simp)
    obtain ⟨frame, framed⟩ := each child (by simp) own inside
    have among := mem_groupIds_of_mem_nodes inside
    have other := ne_of_mem_groupIds distinct.1 member among
    refine ⟨(group id logic [], (before ++ child :: after).map RuleNode.id) ::ₘ
      ((before.map cards).sum + frame + (after.map cards).sum), fun fresh => ?_⟩
    rw [setChildren_group, childrenAfter, if_neg other, map_setChildren distinct.2 among,
      cards_group]
    simp only [List.map_append, List.map_cons, List.sum_append, List.sum_cons, id_setChildren,
      framed, ← Multiset.singleton_add]
    abel

/-- In a tree with distinct identities the cards besides those of a group and of what is below it
do not depend on its children. -/
theorem exists_frame {root : RuleNode} {container : String} {logic : Logic}
    {old : List RuleNode} (distinct : root.ids.Nodup)
    (located : group container logic old ∈ root.nodes) :
    ∃ frame, ∀ fresh, (root.setChildren container fresh).cards =
      (group container logic [], fresh.map RuleNode.id) ::ₘ (frame + (fresh.map cards).sum) := by
  induction root with
  | group id outer children ih => exact exists_frame_group distinct ih located
  | scalar id condition => cases List.mem_singleton.mp located
  | array id path quantifier predicateId predicateLogic predicate ih =>
      rw [ids_array] at distinct
      obtain ⟨frame, framed⟩ := exists_frame_group (by rw [ids_group]; exact distinct.of_cons) ih
        (group_mem_nodes_array.mp located)
      refine ⟨(array id path quantifier predicateId predicateLogic [], [predicateId]) ::ₘ frame,
        fun fresh => ?_⟩
      specialize framed fresh
      rw [setChildren_group] at framed
      rw [setChildren_array, cards_array, framed, Multiset.cons_swap, Multiset.cons_add]

/-- The groups of a rule with the identities of their children. -/
def listings (root : RuleNode) : List (String × List String) :=
  root.nodes.filterMap fun node =>
    match node with
    | group id _ children => some (id, children.map RuleNode.id)
    | _ => none

/-- Whether a group of a rule has children of these identities. -/
def ListsChildren (root : RuleNode) (container : String) (childIds : List String) : Prop :=
  (container, childIds) ∈ root.listings

theorem listsChildren_iff {root : RuleNode} {container : String} {childIds : List String} :
    root.ListsChildren container childIds ↔
      ∃ logic children, group container logic children ∈ root.nodes ∧
        children.map RuleNode.id = childIds := by
  rw [ListsChildren, listings, List.mem_filterMap]
  constructor
  · rintro ⟨node, located, same⟩
    cases node with
    | group id logic children =>
        cases same
        exact ⟨logic, children, located, rfl⟩
    | scalar id condition => cases same
    | array id path quantifier predicateId predicateLogic predicate => cases same
  · rintro ⟨logic, children, located, rfl⟩
    exact ⟨_, located, rfl⟩

theorem listsChildren_iff_mem_cards {root : RuleNode} {container : String}
    {childIds : List String} :
    root.ListsChildren container childIds ↔
      ∃ logic, (group container logic [], childIds) ∈ root.cards := by
  simp only [listsChildren_iff, cards, Multiset.mem_map, Multiset.mem_coe]
  constructor
  · rintro ⟨logic, children, located, rfl⟩
    exact ⟨logic, _, located, rfl⟩
  · rintro ⟨logic, node, located, same⟩
    cases node with
    | group id own children =>
        cases same
        exact ⟨logic, children, located, rfl⟩
    | scalar id condition => cases same
    | array id path quantifier predicateId predicateLogic predicate => cases same

theorem ListsChildren.unique {root : RuleNode} {container : String}
    {first second : List String} (distinct : root.ids.Nodup)
    (one : root.ListsChildren container first) (other : root.ListsChildren container second) :
    first = second := by
  obtain ⟨_, _, located, rfl⟩ := listsChildren_iff.mp one
  obtain ⟨_, _, also, rfl⟩ := listsChildren_iff.mp other
  cases eq_of_id_eq distinct located also rfl
  rfl

/-- The identities below the root of a rule, each as often as a node lists it. -/
def listedIds (root : RuleNode) : Multiset String :=
  root.cards.bind fun card => (card.2 : Multiset String)

theorem listedIds_group (id : String) (logic : Logic) (children : List RuleNode) :
    (group id logic children).listedIds =
      (children.map RuleNode.id : Multiset String) + (children.map listedIds).sum := by
  rw [listedIds, cards_group, Multiset.cons_bind]
  congr 1
  induction children with
  | nil => rfl
  | cons child rest ih =>
      rw [List.map_cons, List.sum_cons, Multiset.add_bind, ih, List.map_cons, List.sum_cons,
        listedIds]

theorem coe_ids_group {id : String} {logic : Logic} {children : List RuleNode}
    (each : ∀ child ∈ children, (child.ids : Multiset String) = child.id ::ₘ child.listedIds) :
    ((group id logic children).ids : Multiset String) =
      id ::ₘ (group id logic children).listedIds := by
  rw [ids_group, ← Multiset.cons_coe, listedIds_group]
  congr 1
  induction children with
  | nil => rfl
  | cons child rest ih =>
      obtain ⟨here, later⟩ := List.forall_mem_cons.mp each
      rw [List.flatMap_cons, ← Multiset.coe_add, here, ih later, List.map_cons, List.map_cons,
        List.sum_cons, ← Multiset.cons_coe]
      simp only [← Multiset.singleton_add]
      abel

/-- Every node but the root is listed by the node above it. -/
theorem coe_ids_eq_cons (root : RuleNode) :
    (root.ids : Multiset String) = root.id ::ₘ root.listedIds := by
  induction root with
  | group id logic children ih => exact coe_ids_group ih
  | scalar id condition => rfl
  | array id path quantifier predicateId predicateLogic predicate ih =>
      have below : ((group predicateId predicateLogic predicate).ids : Multiset String) =
          predicateId ::ₘ (group predicateId predicateLogic predicate).listedIds :=
        coe_ids_group ih
      rw [ids_group] at below
      have listed : (array id path quantifier predicateId predicateLogic predicate).listedIds =
          predicateId ::ₘ (group predicateId predicateLogic predicate).listedIds := by
        rw [listedIds, cards_array, Multiset.cons_bind]
        rfl
      rw [ids_array, ← Multiset.cons_coe, below, listed]
      rfl

/-- In a tree with distinct identities a node is listed once. -/
theorem listed_once {root node : RuleNode} {target : String} {before after : List String}
    {others : Multiset (RuleNode × List String)} (distinct : root.ids.Nodup)
    (split : root.cards = (node, before ++ target :: after) ::ₘ others) :
    target ∉ before ∧ target ∉ after ∧ ∀ card ∈ others, target ∉ card.2 := by
  have whole : (root.ids : Multiset String).Nodup := distinct
  rw [coe_ids_eq_cons, listedIds, split, Multiset.cons_bind, Multiset.nodup_cons,
    Multiset.nodup_add] at whole
  obtain ⟨-, own, -, apart⟩ := whole
  have once := List.nodup_middle.mp own
  rw [List.nodup_cons, List.mem_append, not_or] at once
  refine ⟨once.1.1, once.1.2, fun card member also => ?_⟩
  have here : target ∈ ((before ++ target :: after : List String) : Multiset String) := by simp
  exact Multiset.disjoint_left.mp apart here (Multiset.mem_bind.mpr ⟨card, member, also⟩)

/-- Whether a node is a child of a group of a rule. -/
def HasChild (root : RuleNode) (container target : String) : Prop :=
  ∃ childIds, root.ListsChildren container childIds ∧ target ∈ childIds

instance (root : RuleNode) (container target : String) :
    Decidable (root.HasChild container target) :=
  decidable_of_iff (∃ listing ∈ root.listings, listing.1 = container ∧ target ∈ listing.2)
    ⟨fun ⟨(_, childIds), among, here, member⟩ => ⟨childIds, here ▸ among, member⟩,
      fun ⟨childIds, among, member⟩ => ⟨(container, childIds), among, rfl, member⟩⟩

/-- Whether a node is a child of some group of a rule. -/
def IsListed (root : RuleNode) (target : String) : Prop :=
  ∃ container, root.HasChild container target

theorem isListed_iff {root : RuleNode} {target : String} :
    root.IsListed target ↔ ∃ id logic children, group id logic children ∈ root.nodes ∧
      ∃ child ∈ children, child.id = target := by
  constructor
  · rintro ⟨id, _, lists, member⟩
    obtain ⟨logic, children, located, rfl⟩ := listsChildren_iff.mp lists
    exact ⟨id, logic, children, located, List.mem_map.mp member⟩
  · rintro ⟨id, logic, children, located, child, member, same⟩
    exact ⟨id, _, listsChildren_iff.mpr ⟨logic, children, located, rfl⟩,
      List.mem_map.mpr ⟨child, member, same⟩⟩

theorem isListed_group {id : String} {logic : Logic} {children : List RuleNode}
    {target : String} :
    (group id logic children).IsListed target ↔
      ∃ child ∈ children, child.id = target ∨ child.IsListed target := by
  simp only [isListed_iff]
  constructor
  · rintro ⟨container, inner, others, located, child, member, same⟩
    rcases mem_nodes_group.mp located with same' | ⟨below, among, inside⟩
    · cases same'
      exact ⟨child, member, .inl same⟩
    · exact ⟨below, among, .inr ⟨container, inner, others, inside, child, member, same⟩⟩
  · rintro ⟨child, member, same | ⟨container, inner, others, inside, below⟩⟩
    · exact ⟨id, logic, children, self_mem_nodes _, child, member, same⟩
    · exact ⟨container, inner, others, mem_nodes_group.mpr (.inr ⟨child, member, inside⟩), below⟩

theorem isListed_array {id : String} {path : Value} {quantifier : Quantifier}
    {predicateId : String} {predicateLogic : Logic} {predicate : List RuleNode}
    {target : String} :
    (array id path quantifier predicateId predicateLogic predicate).IsListed target ↔
      ∃ child ∈ predicate, child.id = target ∨ child.IsListed target := by
  have inGroup : (group predicateId predicateLogic predicate).IsListed target ↔
      ∃ child ∈ predicate, child.id = target ∨ child.IsListed target := isListed_group
  rw [← inGroup, isListed_iff, isListed_iff]
  simp only [group_mem_nodes_array]

/-- A node can be taken out exactly when it is a child of a group. -/
theorem detach_eq_none_iff {root : RuleNode} {target : String} :
    root.detach target = none ↔ ¬ root.IsListed target := by
  have every {children : List RuleNode}
      (each : ∀ child ∈ children, child.detach target = none ↔ ¬ child.IsListed target) :
      (∀ child ∈ children, child.id ≠ target ∧ child.detach target = none) ↔
        ¬ ∃ child ∈ children, child.id = target ∨ child.IsListed target := by
    push Not
    exact forall₂_congr fun child member => and_congr Iff.rfl (each child member)
  induction root with
  | group id logic children ih =>
      rw [detach_group, Option.map_eq_none_iff, detachFrom_eq_none, isListed_group, every ih]
  | scalar id condition =>
      refine iff_of_true (by simp [detach]) ?_
      rw [isListed_iff]
      rintro ⟨container, inner, others, located, -⟩
      cases List.mem_singleton.mp located
  | array id path quantifier predicateId predicateLogic predicate ih =>
      rw [detach_array, Option.map_eq_none_iff, detachFrom_eq_none, isListed_array, every ih]

/-! ## Taking out and putting in -/

/-- Taking a node out takes its identity from the list of one group, and its own cards from those
of the tree. -/
theorem cards_of_detach {target : String} {root rest : RuleNode} {removal : Removal}
    (distinct : root.ids.Nodup) (found : root.detach target = some (rest, removal)) :
    ∃ logic before after kept, removal.index = before.length ∧
      root.cards = (group removal.container logic [], before ++ target :: after) ::ₘ
        (kept + removal.node.cards) ∧
      rest.cards = (group removal.container logic [], before ++ after) ::ₘ kept := by
  have own := (splits_of_detach found).node
  obtain ⟨located⟩ := takesOut_of_detach distinct found
  rename_i container logic before after node
  obtain ⟨frame, framed⟩ := exists_frame distinct located
  have whole := framed (before ++ node :: after)
  rw [setChildren_own distinct located] at whole
  refine ⟨logic, before.map RuleNode.id, after.map RuleNode.id,
    frame + ((before ++ after).map cards).sum, by simp, ?_, ?_⟩
  · rw [whole, List.map_append, List.map_cons, own, sum_map_cards_perm List.perm_middle,
      List.map_cons, List.sum_cons, add_left_comm, add_comm node.cards]
  · rw [framed, List.map_append]

end Rulebook.RuleNode
