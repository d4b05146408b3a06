import Mathlib.Data.List.Nodup
import Mathlib.Data.List.Perm.Basic
import Rulebook.Proofs.Rule.Induction
import Rulebook.Rule.Edit

/-!
# Identities under edits

Taking a node out of a tree and putting a node into one splits and joins their identities; every
edit is made of these two steps.  An edit therefore keeps the identities of a tree distinct exactly
when what it brings in is new to the tree, below its root as well as at it.
-/

namespace Rulebook.RuleNode

/-! ## The identities of a tree -/

@[simp] theorem ids_group (id : String) (logic : Logic) (children : List RuleNode) :
    (group id logic children).ids = id :: children.flatMap ids := by
  simp only [ids, nodes, nodesOf_eq_flatMap, List.map_cons, List.map_flatMap]
  rfl

@[simp] theorem ids_scalar (id : String) (condition : Condition) :
    (scalar id condition).ids = [id] := rfl

@[simp] theorem ids_array (id : String) (path : Value) (quantifier : Quantifier)
    (predicateId : String) (predicateLogic : Logic) (predicate : List RuleNode) :
    (array id path quantifier predicateId predicateLogic predicate).ids =
      id :: predicateId :: predicate.flatMap ids := by
  simp only [ids, nodes, nodesOf_eq_flatMap, List.map_cons, List.map_flatMap]
  rfl

/-- The identities in a rule below its root. -/
def idsBelow (root : RuleNode) : List String := root.ids.tail

theorem ids_eq_cons (root : RuleNode) : root.ids = root.id :: root.idsBelow := by
  cases root <;> simp [idsBelow, RuleNode.id]

theorem ids_withId (root : RuleNode) (id : String) :
    (root.withId id).ids = id :: root.idsBelow := by
  cases root <;> simp [withId, idsBelow]

theorem isSome_find?_iff {root : RuleNode} {target : String} :
    (root.find? target).isSome ↔ target ∈ root.ids := by
  simp [find?, ids, List.find?_isSome]

@[simp] theorem groupIds_group (id : String) (logic : Logic) (children : List RuleNode) :
    (group id logic children).groupIds = id :: children.flatMap groupIds := by
  rw [groupIds, nodes, nodesOf_eq_flatMap, List.filter_cons_of_pos rfl, List.filter_flatMap,
    List.map_cons, List.map_flatMap]
  rfl

@[simp] theorem groupIds_scalar (id : String) (condition : Condition) :
    (scalar id condition).groupIds = [] := rfl

@[simp] theorem groupIds_array (id : String) (path : Value) (quantifier : Quantifier)
    (predicateId : String) (predicateLogic : Logic) (predicate : List RuleNode) :
    (array id path quantifier predicateId predicateLogic predicate).groupIds =
      predicateId :: predicate.flatMap groupIds := by
  rw [groupIds, nodes, nodesOf_eq_flatMap, List.filter_cons_of_neg (by simp [isGroup]),
    List.filter_cons_of_pos rfl, List.filter_flatMap, List.map_cons, List.map_flatMap]
  rfl

/-! ## Taking a node out -/

/-- The child that is taken out of a list is the first one with the identity. -/
theorem takeChild_eq_some {target : String} {children rest : List RuleNode} {node : RuleNode}
    {index : Nat} (taken : takeChild target children = some (rest, node, index)) :
    ∃ before after, children = before ++ node :: after ∧ rest = before ++ after ∧
      index = before.length ∧ node.id = target ∧ ∀ child ∈ before, child.id ≠ target := by
  induction children generalizing rest index with
  | nil => simp [takeChild] at taken
  | cons child children ih =>
      rw [takeChild] at taken
      split at taken
      · rename_i same
        cases taken
        exact ⟨[], children, rfl, rfl, rfl, same, by simp⟩
      · rename_i other
        obtain ⟨⟨later, found, place⟩, below, same⟩ := Option.map_eq_some_iff.mp taken
        cases same
        obtain ⟨before, after, rfl, rfl, rfl, same, earlier⟩ := ih below
        exact ⟨child :: before, after, rfl, rfl, rfl, same, by simpa [other] using earlier⟩

theorem takeChild_eq_none {target : String} {children : List RuleNode} :
    takeChild target children = none ↔ ∀ child ∈ children, child.id ≠ target := by
  induction children with
  | nil => simp [takeChild]
  | cons child children ih =>
      rw [takeChild]
      split
      · rename_i same
        simp [same]
      · rename_i other
        simp [other, ih]

/-- Below a list of children, the node is taken out of the first child that has it. -/
theorem detachBelow_eq_some {target : String} {children rest : List RuleNode}
    {removal : Removal} (found : detachBelow target children = some (rest, removal)) :
    ∃ before child after changed, children = before ++ child :: after ∧
      rest = before ++ changed :: after ∧ child.detach target = some (changed, removal) ∧
        ∀ earlier ∈ before, earlier.detach target = none := by
  induction children generalizing rest with
  | nil => simp [detachBelow] at found
  | cons child children ih =>
      rw [detachBelow] at found
      split at found
      · rename_i changed removal here
        cases found
        exact ⟨[], child, children, changed, rfl, rfl, here, by simp⟩
      · rename_i absent
        obtain ⟨⟨later, removal⟩, below, same⟩ := Option.map_eq_some_iff.mp found
        cases same
        obtain ⟨before, child', after, changed, rfl, rfl, here, earlier⟩ := ih below
        exact ⟨child :: before, child', after, changed, rfl, rfl, here,
          by simpa [absent] using earlier⟩

theorem detachBelow_eq_none {target : String} {children : List RuleNode} :
    detachBelow target children = none ↔ ∀ child ∈ children, child.detach target = none := by
  induction children with
  | nil => simp [detachBelow]
  | cons child children ih =>
      rw [detachBelow]
      cases here : child.detach target with
      | none => simp [here, ih]
      | some found => simp [here]

/-- Takes a node out of the children of a group: one of them, or else a node further down. -/
def detachFrom (target container : String) (children : List RuleNode) :
    Option (List RuleNode × Removal) :=
  match takeChild target children with
  | some (rest, node, index) => some (rest, { node, container, index })
  | none => detachBelow target children

theorem detach_group (target id : String) (logic : Logic) (children : List RuleNode) :
    (group id logic children).detach target =
      (detachFrom target id children).map fun (rest, removal) =>
        (group id logic rest, removal) := by
  rw [detach, detachFrom]
  cases takeChild target children <;> rfl

theorem detach_array (target id : String) (path : Value) (quantifier : Quantifier)
    (predicateId : String) (predicateLogic : Logic) (predicate : List RuleNode) :
    (array id path quantifier predicateId predicateLogic predicate).detach target =
      (detachFrom target predicateId predicate).map fun (rest, removal) =>
        (array id path quantifier predicateId predicateLogic rest, removal) := by
  rw [detach, detachFrom]
  cases takeChild target predicate <;> rfl

/-- Either a child itself is taken out, or no child is the node and it is taken out of a child. -/
theorem detachFrom_eq_some {target container : String} {children rest : List RuleNode}
    {removal : Removal} (found : detachFrom target container children = some (rest, removal)) :
    (∃ before node after, children = before ++ node :: after ∧ rest = before ++ after ∧
      node.id = target ∧ (∀ child ∈ before, child.id ≠ target) ∧
        removal = { node, container, index := before.length }) ∨
    ((∀ child ∈ children, child.id ≠ target) ∧
      ∃ before child after changed, children = before ++ child :: after ∧
        rest = before ++ changed :: after ∧ child.detach target = some (changed, removal) ∧
          ∀ earlier ∈ before, earlier.detach target = none) := by
  rw [detachFrom] at found
  split at found
  · rename_i remaining node index taken
    cases found
    obtain ⟨before, after, rfl, rfl, rfl, same, earlier⟩ := takeChild_eq_some taken
    exact .inl ⟨before, node, after, rfl, rfl, same, earlier, rfl⟩
  · rename_i absent
    exact .inr ⟨takeChild_eq_none.mp absent, detachBelow_eq_some found⟩

theorem detachFrom_eq_none {target container : String} {children : List RuleNode} :
    detachFrom target container children = none ↔
      ∀ child ∈ children, child.id ≠ target ∧ child.detach target = none := by
  rw [detachFrom]
  cases taken : takeChild target children with
  | none =>
      have others := takeChild_eq_none.mp taken
      rw [detachBelow_eq_none]
      exact ⟨fun deeper child member => ⟨others child member, deeper child member⟩,
        fun each child member => (each child member).2⟩
  | some found =>
      refine iff_of_false (by simp) fun each => ?_
      rw [takeChild_eq_none.mpr fun child member => (each child member).1] at taken
      cases taken

/-- What taking a node out does to a tree: the identities are split between the node and the
rest, the group that held the node stays, and the root stays what it is. -/
structure Splits (target : String) (root rest : RuleNode) (removal : Removal) : Prop where
  ids : root.ids.Perm (removal.node.ids ++ rest.ids)
  node : removal.node.id = target
  container : removal.container ∈ rest.groupIds
  root : rest.id = root.id

theorem splits_of_detachFrom {target container : String} {children rest : List RuleNode}
    {removal : Removal}
    (each : ∀ child ∈ children, ∀ changed removal,
      child.detach target = some (changed, removal) → Splits target child changed removal)
    (found : detachFrom target container children = some (rest, removal)) :
    (children.flatMap ids).Perm (removal.node.ids ++ rest.flatMap ids) ∧
      removal.node.id = target ∧
        removal.container ∈ container :: rest.flatMap groupIds := by
  rcases detachFrom_eq_some found with
    ⟨before, node, after, rfl, rfl, same, -, rfl⟩ |
      ⟨-, before, child, after, changed, rfl, rfl, here, -⟩
  · refine ⟨?_, same, List.mem_cons_self⟩
    simp only [List.flatMap_append, List.flatMap_cons]
    exact List.perm_append_comm_assoc ..
  · have split := each child (by simp) changed removal here
    refine ⟨?_, split.node, List.mem_cons_of_mem _ ?_⟩
    · simp only [List.flatMap_append, List.flatMap_cons]
      have regrouped := (split.ids.append_right (after.flatMap ids)).append_left
        (before.flatMap ids)
      rw [List.append_assoc] at regrouped
      exact regrouped.trans (List.perm_append_comm_assoc ..)
    · simp only [List.flatMap_append, List.flatMap_cons, List.mem_append]
      exact .inr (.inl split.container)

theorem splits_of_detach {target : String} {root rest : RuleNode} {removal : Removal}
    (found : root.detach target = some (rest, removal)) : Splits target root rest removal := by
  induction root generalizing rest removal with
  | scalar id condition => simp [detach] at found
  | group id logic children ih =>
      rw [detach_group] at found
      obtain ⟨⟨remaining, taken⟩, found, same⟩ := Option.map_eq_some_iff.mp found
      cases same
      obtain ⟨split, node, container⟩ :=
        splits_of_detachFrom (fun child member _ _ => ih child member) found
      refine ⟨?_, node, by simpa using container, rfl⟩
      simpa using (split.cons id).trans List.perm_middle.symm
  | array id path quantifier predicateId predicateLogic predicate ih =>
      rw [detach_array] at found
      obtain ⟨⟨remaining, taken⟩, found, same⟩ := Option.map_eq_some_iff.mp found
      cases same
      obtain ⟨split, node, container⟩ :=
        splits_of_detachFrom (fun child member _ _ => ih child member) found
      refine ⟨?_, node, by simpa using container, rfl⟩
      simpa using ((split.cons predicateId).trans List.perm_middle.symm |>.cons id).trans
        List.perm_middle.symm

/-! ## Putting a node in -/

theorem clampIndex_le (index : Option Int) (length : Nat) : clampIndex index length ≤ length := by
  cases index with
  | none => exact Nat.le_refl _
  | some index => exact Nat.min_le_right ..

theorem insertAt_perm (index : Option Int) (node : RuleNode) (children : List RuleNode) :
    (insertAt index node children).Perm (node :: children) :=
  List.perm_insertIdx node children (clampIndex_le index children.length)

theorem flatMap_ids_perm_of_insertAt (index : Option Int) (node : RuleNode)
    (children : List RuleNode) :
    ((insertAt index node children).flatMap ids).Perm (node.ids ++ children.flatMap ids) :=
  (insertAt_perm index node children).flatMap_right ids

theorem insertIntoOne_eq_some {container : String} {index : Option Int} {node : RuleNode}
    {children grown : List RuleNode}
    (placed : insertIntoOne container index node children = some grown) :
    ∃ before child after changed, children = before ++ child :: after ∧
      grown = before ++ changed :: after ∧
        insertInto container index node child = some changed ∧
          ∀ earlier ∈ before, insertInto container index node earlier = none := by
  induction children generalizing grown with
  | nil => simp [insertIntoOne] at placed
  | cons child children ih =>
      rw [insertIntoOne] at placed
      split at placed
      · rename_i changed here
        cases placed
        exact ⟨[], child, children, changed, rfl, rfl, here, by simp⟩
      · rename_i absent
        obtain ⟨later, below, rfl⟩ := Option.map_eq_some_iff.mp placed
        obtain ⟨before, child', after, changed, rfl, rfl, here, earlier⟩ := ih below
        exact ⟨child :: before, child', after, changed, rfl, rfl, here,
          by simpa [absent] using earlier⟩

theorem insertIntoOne_eq_none {container : String} {index : Option Int} {node : RuleNode}
    {children : List RuleNode} :
    insertIntoOne container index node children = none ↔
      ∀ child ∈ children, insertInto container index node child = none := by
  induction children with
  | nil => simp [insertIntoOne]
  | cons child children ih =>
      rw [insertIntoOne]
      cases here : insertInto container index node child with
      | none => simp [here, ih]
      | some changed => simp [here]

/-- Puts a node among the children of a group with the identity `id`, or further down. -/
def placeIn (container : String) (index : Option Int) (node : RuleNode) (id : String)
    (children : List RuleNode) : Option (List RuleNode) :=
  if id = container then some (insertAt index node children)
  else insertIntoOne container index node children

theorem insertInto_group (container : String) (index : Option Int) (node : RuleNode)
    (id : String) (logic : Logic) (children : List RuleNode) :
    insertInto container index node (group id logic children) =
      (placeIn container index node id children).map (group id logic) := by
  rw [insertInto, placeIn]
  split <;> rfl

theorem insertInto_array (container : String) (index : Option Int) (node : RuleNode)
    (id : String) (path : Value) (quantifier : Quantifier) (predicateId : String)
    (predicateLogic : Logic) (predicate : List RuleNode) :
    insertInto container index node
        (array id path quantifier predicateId predicateLogic predicate) =
      (placeIn container index node predicateId predicate).map
        (array id path quantifier predicateId predicateLogic) := by
  rw [insertInto, placeIn]
  split <;> rfl

theorem flatMap_ids_perm_of_placeIn {container : String} {index : Option Int} {node : RuleNode}
    {id : String} {children grown : List RuleNode}
    (each : ∀ child ∈ children, ∀ changed, insertInto container index node child = some changed →
      changed.ids.Perm (node.ids ++ child.ids))
    (placed : placeIn container index node id children = some grown) :
    (grown.flatMap ids).Perm (node.ids ++ children.flatMap ids) := by
  rw [placeIn] at placed
  split at placed
  · cases placed
    exact flatMap_ids_perm_of_insertAt index node children
  · obtain ⟨before, child, after, changed, rfl, rfl, here, -⟩ := insertIntoOne_eq_some placed
    have joined := each child (by simp) changed here
    simp only [List.flatMap_append, List.flatMap_cons]
    have regrouped := (joined.append_right (after.flatMap ids)).append_left (before.flatMap ids)
    rw [List.append_assoc] at regrouped
    exact regrouped.trans (List.perm_append_comm_assoc ..)

theorem ids_perm_of_insertInto {container : String} {index : Option Int}
    {node root grown : RuleNode} (placed : insertInto container index node root = some grown) :
    grown.ids.Perm (node.ids ++ root.ids) := by
  induction root generalizing grown with
  | scalar id condition => simp [insertInto] at placed
  | group id logic children ih =>
      rw [insertInto_group] at placed
      obtain ⟨changed, below, rfl⟩ := Option.map_eq_some_iff.mp placed
      have joined := flatMap_ids_perm_of_placeIn (fun child member _ => ih child member) below
      simpa using (joined.cons id).trans List.perm_middle.symm
  | array id path quantifier predicateId predicateLogic predicate ih =>
      rw [insertInto_array] at placed
      obtain ⟨changed, below, rfl⟩ := Option.map_eq_some_iff.mp placed
      have joined := flatMap_ids_perm_of_placeIn (fun child member _ => ih child member) below
      simpa using ((joined.cons predicateId).trans List.perm_middle.symm |>.cons id).trans
        List.perm_middle.symm

theorem isSome_placeIn_iff {container : String} {index : Option Int} {node : RuleNode}
    {id : String} {children : List RuleNode}
    (each : ∀ child ∈ children,
      (insertInto container index node child).isSome ↔ container ∈ child.groupIds) :
    (placeIn container index node id children).isSome ↔
      container ∈ id :: children.flatMap groupIds := by
  rw [placeIn]
  split
  · rename_i same
    simp [same]
  · rename_i other
    rw [← not_iff_not, Bool.not_eq_true, Option.isSome_eq_false_iff, Option.isNone_iff_eq_none,
      insertIntoOne_eq_none, List.mem_cons, List.mem_flatMap]
    constructor
    · rintro absent (same | ⟨child, member, found⟩)
      · exact other same.symm
      · have placed := (each child member).mpr found
        rw [absent child member] at placed
        cases placed
    · intro outside child member
      by_contra placed
      exact outside (.inr ⟨child, member,
        (each child member).mp (Option.isSome_iff_ne_none.mpr placed)⟩)

/-- A node can be put into exactly the groups of a tree. -/
theorem isSome_insertInto_iff {container : String} {index : Option Int} {node root : RuleNode} :
    (insertInto container index node root).isSome ↔ container ∈ root.groupIds := by
  induction root with
  | scalar id condition => simp [insertInto]
  | group id logic children ih =>
      rw [insertInto_group, Option.isSome_map, isSome_placeIn_iff ih, groupIds_group]
  | array id path quantifier predicateId predicateLogic predicate ih =>
      rw [insertInto_array, Option.isSome_map, isSome_placeIn_iff ih, groupIds_array]

end Rulebook.RuleNode
