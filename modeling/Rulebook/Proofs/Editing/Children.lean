import Rulebook.Proofs.Editing.Identities

/-!
# The children of one group

In a tree with distinct identities, taking a node out and putting a node in both come to giving
other children to one group.
-/

namespace Rulebook.RuleNode

mutual

/-- The rule with other children for the group of an identity; of two such groups one inside the
other, the outer one is changed. -/
def setChildren (container : String) (fresh : List RuleNode) : RuleNode → RuleNode
  | group id logic children =>
      if id = container then group id logic fresh
      else group id logic (setChildrenOf container fresh children)
  | scalar id condition => scalar id condition
  | array id path quantifier predicateId predicateLogic predicate =>
      if predicateId = container then
        array id path quantifier predicateId predicateLogic fresh
      else
        array id path quantifier predicateId predicateLogic
          (setChildrenOf container fresh predicate)

/-- Several rules, each with other children for the group of an identity. -/
def setChildrenOf (container : String) (fresh : List RuleNode) : List RuleNode → List RuleNode
  | [] => []
  | node :: rest => setChildren container fresh node :: setChildrenOf container fresh rest

end

/-- The children of a group with the identity `id` after other ones are given to a group. -/
def childrenAfter (container : String) (fresh : List RuleNode) (id : String)
    (children : List RuleNode) : List RuleNode :=
  if id = container then fresh else children.map (setChildren container fresh)

theorem setChildrenOf_eq_map (container : String) (fresh children : List RuleNode) :
    setChildrenOf container fresh children = children.map (setChildren container fresh) := by
  induction children with
  | nil => rfl
  | cons child rest ih => rw [setChildrenOf, ih, List.map_cons]

theorem setChildren_group (container : String) (fresh : List RuleNode) (id : String)
    (logic : Logic) (children : List RuleNode) :
    (group id logic children).setChildren container fresh =
      group id logic (childrenAfter container fresh id children) := by
  rw [setChildren, childrenAfter, setChildrenOf_eq_map]
  split <;> rfl

theorem setChildren_array (container : String) (fresh : List RuleNode) (id : String)
    (path : Value) (quantifier : Quantifier) (predicateId : String) (predicateLogic : Logic)
    (predicate : List RuleNode) :
    (array id path quantifier predicateId predicateLogic predicate).setChildren container fresh =
      array id path quantifier predicateId predicateLogic
        (childrenAfter container fresh predicateId predicate) := by
  rw [setChildren, childrenAfter, setChildrenOf_eq_map]
  split <;> rfl

@[simp]
theorem id_setChildren (container : String) (fresh : List RuleNode) (node : RuleNode) :
    (node.setChildren container fresh).id = node.id := by
  cases node with
  | group id logic children => rw [setChildren_group]; rfl
  | scalar id condition => rfl
  | array id path quantifier predicateId predicateLogic predicate =>
      rw [setChildren_array]; rfl

theorem mem_ids_of_mem_groupIds {container : String} {node : RuleNode}
    (inside : container ∈ node.groupIds) : container ∈ node.ids := by
  obtain ⟨sub, member, rfl⟩ := List.mem_map.mp inside
  exact List.mem_map_of_mem (List.mem_of_mem_filter member)

/-- A group below a node has another identity than the node. -/
theorem ne_of_mem_groupIds {id container : String} {children : List RuleNode} {child : RuleNode}
    (apart : id ∉ children.flatMap ids) (member : child ∈ children)
    (inside : container ∈ child.groupIds) : id ≠ container := by
  rintro rfl
  exact apart (List.mem_flatMap.mpr ⟨child, member, mem_ids_of_mem_groupIds inside⟩)

theorem mem_groupIds_of_mem_nodes {container : String} {logic : Logic}
    {children : List RuleNode} {node : RuleNode}
    (located : group container logic children ∈ node.nodes) : container ∈ node.groupIds :=
  List.mem_map.mpr ⟨_, List.mem_filter.mpr ⟨located, rfl⟩, rfl⟩

/-- In a tree with distinct identities there is one node of an identity. -/
theorem eq_of_id_eq {root node other : RuleNode} (distinct : root.ids.Nodup)
    (first : node ∈ root.nodes) (second : other ∈ root.nodes) (same : node.id = other.id) :
    node = other :=
  List.inj_on_of_nodup_map distinct first second same

theorem map_eq_self {change : RuleNode → RuleNode} {children : List RuleNode}
    (each : ∀ child ∈ children, change child = child) : children.map change = children :=
  (List.map_congr_left each).trans (List.map_id _)

/-- The nodes of the predicate of an array rule are nodes of the rule. -/
theorem mem_nodes_array_of_predicate {id : String} {path : Value} {quantifier : Quantifier}
    {predicateId : String} {predicateLogic : Logic} {predicate : List RuleNode} {node : RuleNode}
    (inside : node ∈ (group predicateId predicateLogic predicate).nodes) :
    node ∈ (array id path quantifier predicateId predicateLogic predicate).nodes :=
  mem_nodes_array.mpr (.inr (mem_nodes_group.mp inside))

/-- The groups in an array rule are those of its predicate. -/
theorem group_mem_nodes_array {id : String} {path : Value} {quantifier : Quantifier}
    {predicateId : String} {predicateLogic : Logic} {predicate : List RuleNode}
    {container : String} {logic : Logic} {children : List RuleNode} :
    group container logic children ∈
        (array id path quantifier predicateId predicateLogic predicate).nodes ↔
      group container logic children ∈ (group predicateId predicateLogic predicate).nodes :=
  ⟨fun located => mem_nodes_group.mpr ((mem_nodes_array.mp located).resolve_left (by simp)),
    mem_nodes_array_of_predicate⟩

theorem childrenAfter_self {container id : String} (logic : Logic)
    {fresh children : List RuleNode}
    (each : ∀ child ∈ children,
      (∀ inner old, group container inner old ∈ child.nodes → old = fresh) →
        child.setChildren container fresh = child)
    (own : ∀ inner old, group container inner old ∈ (group id logic children).nodes →
      old = fresh) :
    childrenAfter container fresh id children = children := by
  rw [childrenAfter]
  split
  · rename_i here
    subst here
    exact (own logic children (self_mem_nodes _)).symm
  · exact map_eq_self fun child member => each child member fun inner old inside =>
      own inner old (mem_nodes_group.mpr (.inr ⟨child, member, inside⟩))

/-- A group that is given the children it has stays as it is. -/
theorem setChildren_self {container : String} {fresh : List RuleNode} {node : RuleNode}
    (own : ∀ inner old, group container inner old ∈ node.nodes → old = fresh) :
    node.setChildren container fresh = node := by
  induction node with
  | group id logic children ih => rw [setChildren_group, childrenAfter_self logic ih own]
  | scalar id condition => rfl
  | array id path quantifier predicateId predicateLogic predicate ih =>
      rw [setChildren_array, childrenAfter_self predicateLogic ih]
      exact fun inner old inside => own inner old (mem_nodes_array_of_predicate inside)

theorem setChildren_own {root : RuleNode} {container : String} {logic : Logic}
    {children : List RuleNode} (distinct : root.ids.Nodup)
    (located : group container logic children ∈ root.nodes) :
    root.setChildren container children = root :=
  setChildren_self fun _ _ also => by
    cases eq_of_id_eq distinct located also rfl
    rfl

theorem setChildren_of_notMem {container : String} {fresh : List RuleNode} {node : RuleNode}
    (outside : container ∉ node.groupIds) : node.setChildren container fresh = node :=
  setChildren_self fun _ _ located => (outside (mem_groupIds_of_mem_nodes located)).elim

theorem find?_eq_some_iff {root node : RuleNode} {target : String} (distinct : root.ids.Nodup) :
    root.find? target = some node ↔ node ∈ root.nodes ∧ node.id = target := by
  constructor
  · intro found
    exact ⟨List.mem_of_find?_eq_some found, by simpa using List.find?_some found⟩
  · rintro ⟨member, rfl⟩
    obtain ⟨other, found⟩ := Option.isSome_iff_exists.mp
      (isSome_find?_iff.mpr (List.mem_map_of_mem member))
    have same : other.id = node.id := by simpa using List.find?_some found
    rw [found, eq_of_id_eq distinct (List.mem_of_find?_eq_some found) member same]

theorem childrenAfter_childrenAfter {container id : String}
    {first second children : List RuleNode}
    (each : ∀ child ∈ children,
      (child.setChildren container first).setChildren container second =
        child.setChildren container second) :
    childrenAfter container second id (childrenAfter container first id children) =
      childrenAfter container second id children := by
  simp only [childrenAfter]
  split
  · rfl
  · rw [List.map_map]
    exact List.map_congr_left each

/-- What is set last stays. -/
theorem setChildren_setChildren (container : String) (first second : List RuleNode)
    (node : RuleNode) :
    (node.setChildren container first).setChildren container second =
      node.setChildren container second := by
  induction node with
  | group id logic children ih =>
      rw [setChildren_group, setChildren_group, setChildren_group,
        childrenAfter_childrenAfter ih]
  | scalar id condition => rfl
  | array id path quantifier predicateId predicateLogic predicate ih =>
      rw [setChildren_array, setChildren_array, setChildren_array,
        childrenAfter_childrenAfter ih]

theorem mem_nodes_childrenAfter {container id : String} (logic : Logic)
    {fresh children : List RuleNode}
    (each : ∀ child ∈ children, container ∈ child.groupIds →
      ∃ inner, group container inner fresh ∈ (child.setChildren container fresh).nodes)
    (inside : container ∈ id :: children.flatMap groupIds) :
    ∃ inner, group container inner fresh ∈
      (group id logic (childrenAfter container fresh id children)).nodes := by
  rw [childrenAfter]
  split
  · rename_i here
    subst here
    exact ⟨logic, self_mem_nodes _⟩
  · rename_i other
    obtain ⟨child, member, below⟩ :=
      List.mem_flatMap.mp ((List.mem_cons.mp inside).resolve_left (Ne.symm other))
    obtain ⟨inner, located⟩ := each child member below
    exact ⟨inner, mem_nodes_group.mpr (.inr ⟨_, List.mem_map_of_mem member, located⟩)⟩

/-- The group has the children that it is given. -/
theorem mem_nodes_setChildren {container : String} (fresh : List RuleNode) {node : RuleNode}
    (inside : container ∈ node.groupIds) :
    ∃ inner, group container inner fresh ∈ (node.setChildren container fresh).nodes := by
  induction node with
  | group id logic children ih =>
      rw [setChildren_group]
      exact mem_nodes_childrenAfter logic ih (by simpa using inside)
  | scalar id condition => simp at inside
  | array id path quantifier predicateId predicateLogic predicate ih =>
      obtain ⟨inner, located⟩ :=
        mem_nodes_childrenAfter predicateLogic ih (by simpa using inside)
      exact ⟨inner, by rw [setChildren_array]; exact mem_nodes_array_of_predicate located⟩

/-- Of several trees with distinct identities, one has the group. -/
theorem map_setChildren {container : String} {fresh before after : List RuleNode}
    {child : RuleNode} (distinct : ((before ++ child :: after).flatMap ids).Nodup)
    (inside : container ∈ child.groupIds) :
    (before ++ child :: after).map (setChildren container fresh) =
      before ++ child.setChildren container fresh :: after := by
  rw [List.flatMap_append, List.flatMap_cons, List.nodup_append'] at distinct
  obtain ⟨-, rest, apart⟩ := distinct
  have here := mem_ids_of_mem_groupIds inside
  have unchanged (others : List RuleNode) (without : container ∉ others.flatMap ids) :
      others.map (setChildren container fresh) = others :=
    map_eq_self fun other member => setChildren_of_notMem fun also =>
      without (List.mem_flatMap.mpr ⟨other, member, mem_ids_of_mem_groupIds also⟩)
  rw [List.map_append, List.map_cons, unchanged before, unchanged after]
  · exact (List.nodup_append'.mp rest).2.2 here
  · exact fun earlier => apart earlier (List.mem_append_left _ here)

/-! ## Taking out and putting in -/

/-- Whether a tree and a removal come from taking a node out: the group that held the node is left
with its other children. -/
inductive TakesOut (root : RuleNode) : RuleNode → Removal → Prop where
  | intro {container : String} {logic : Logic} {before after : List RuleNode} {node : RuleNode}
      (located : group container logic (before ++ node :: after) ∈ root.nodes) :
      TakesOut root (root.setChildren container (before ++ after))
        { node, container, index := before.length }

theorem takesOut_group {target id : String} {logic : Logic} {children rest : List RuleNode}
    {removal : Removal} (distinct : (group id logic children).ids.Nodup)
    (each : ∀ child ∈ children, ∀ changed removal, child.ids.Nodup →
      child.detach target = some (changed, removal) → TakesOut child changed removal)
    (found : detachFrom target id children = some (rest, removal)) :
    TakesOut (group id logic children) (group id logic rest) removal := by
  rw [ids_group, List.nodup_cons] at distinct
  rcases detachFrom_eq_some found with
    ⟨before, node, after, rfl, rfl, -, -, rfl⟩ |
      ⟨-, before, child, after, changed, rfl, rfl, here, -⟩
  · have taken : TakesOut (group id logic (before ++ node :: after))
        ((group id logic (before ++ node :: after)).setChildren id (before ++ after))
        { node, container := id, index := before.length } :=
      .intro (self_mem_nodes _)
    rwa [setChildren_group, childrenAfter, if_pos rfl] at taken
  · have own : child.ids.Nodup := (List.nodup_flatMap.mp distinct.2).1 child (by simp)
    obtain ⟨located⟩ := each child (by simp) changed removal own here
    rename_i container inner front back node
    have inside := mem_groupIds_of_mem_nodes located
    have other := ne_of_mem_groupIds distinct.1 (by simp) inside
    have taken : TakesOut (group id logic (before ++ child :: after))
        ((group id logic (before ++ child :: after)).setChildren container (front ++ back))
        { node, container, index := front.length } :=
      .intro (mem_nodes_group.mpr (.inr ⟨child, by simp, located⟩))
    rwa [setChildren_group, childrenAfter, if_neg other, map_setChildren distinct.2 inside]
      at taken

/-- Taking a node out leaves its group with the other children. -/
theorem takesOut_of_detach {target : String} {root rest : RuleNode} {removal : Removal}
    (distinct : root.ids.Nodup) (found : root.detach target = some (rest, removal)) :
    TakesOut root rest removal := by
  induction root generalizing rest removal with
  | group id logic children ih =>
      rw [detach_group] at found
      obtain ⟨⟨remaining, taken⟩, found, same⟩ := Option.map_eq_some_iff.mp found
      cases same
      exact takesOut_group distinct (fun child member _ _ => ih child member) found
  | scalar id condition => simp [detach] at found
  | array id path quantifier predicateId predicateLogic predicate ih =>
      rw [detach_array] at found
      obtain ⟨⟨remaining, taken⟩, found, same⟩ := Option.map_eq_some_iff.mp found
      cases same
      rw [ids_array] at distinct
      have inGroup : TakesOut (group predicateId predicateLogic predicate)
          (group predicateId predicateLogic remaining) removal := takesOut_group
        (by rw [ids_group]; exact distinct.of_cons) (fun child member _ _ => ih child member) found
      -- The predicate is a group below the array rule, and is changed as that group is.
      generalize shown : group predicateId predicateLogic remaining = changed at inGroup
      cases inGroup with
      | intro located =>
          rw [setChildren_group] at shown
          injection shown with _ _ same
          rw [same, ← setChildren_array]
          exact .intro (mem_nodes_array_of_predicate located)

theorem childrenAfter_of_placeIn {container id : String} {index : Option Int} {node : RuleNode}
    {children grown : List RuleNode} (distinct : (id :: children.flatMap ids).Nodup)
    (each : ∀ child ∈ children, ∀ changed, child.ids.Nodup →
      insertInto container index node child = some changed →
        ∃ logic old, group container logic old ∈ child.nodes ∧
          changed = child.setChildren container (insertAt index node old))
    (placed : placeIn container index node id children = some grown) (logic : Logic) :
    ∃ logic' old, group container logic' old ∈ (group id logic children).nodes ∧
      grown = childrenAfter container (insertAt index node old) id children := by
  rw [List.nodup_cons] at distinct
  rw [placeIn] at placed
  split at placed
  · rename_i here
    subst here
    cases placed
    exact ⟨logic, children, self_mem_nodes _, by rw [childrenAfter, if_pos rfl]⟩
  · rename_i other
    obtain ⟨before, child, after, changed, rfl, rfl, below, -⟩ := insertIntoOne_eq_some placed
    have own : child.ids.Nodup := (List.nodup_flatMap.mp distinct.2).1 child (by simp)
    obtain ⟨logic', old, located, rfl⟩ := each child (by simp) changed own below
    refine ⟨logic', old, mem_nodes_group.mpr (.inr ⟨child, by simp, located⟩), ?_⟩
    rw [childrenAfter, if_neg other,
      map_setChildren distinct.2 (mem_groupIds_of_mem_nodes located)]

/-- Putting a node in gives it to the children of the group. -/
theorem exists_setChildren_of_insertInto {container : String} {index : Option Int}
    {node root grown : RuleNode} (distinct : root.ids.Nodup)
    (placed : insertInto container index node root = some grown) :
    ∃ logic old, group container logic old ∈ root.nodes ∧
      grown = root.setChildren container (insertAt index node old) := by
  induction root generalizing grown with
  | group id logic children ih =>
      rw [insertInto_group] at placed
      obtain ⟨changed, below, rfl⟩ := Option.map_eq_some_iff.mp placed
      rw [ids_group] at distinct
      obtain ⟨logic', old, located, rfl⟩ :=
        childrenAfter_of_placeIn distinct (fun child member _ => ih child member) below logic
      exact ⟨logic', old, located, by rw [setChildren_group]⟩
  | scalar id condition => simp [insertInto] at placed
  | array id path quantifier predicateId predicateLogic predicate ih =>
      rw [insertInto_array] at placed
      obtain ⟨changed, below, rfl⟩ := Option.map_eq_some_iff.mp placed
      rw [ids_array] at distinct
      obtain ⟨logic', old, located, rfl⟩ :=
        childrenAfter_of_placeIn distinct.of_cons (fun child member _ => ih child member) below
          predicateLogic
      exact ⟨logic', old, mem_nodes_array_of_predicate located, by rw [setChildren_array]⟩

end Rulebook.RuleNode
