import Rulebook.Proofs.Editing.Inverses
import Rulebook.Proofs.Editing.Replacements

/-!
# Insertions and removals

A node whose identity is new to a tree is found where it has been inserted: the search level by
level that removes it passes over every other node and meets it in the group that the search in
pre-order has reached, also in a tree that has an identity more than once.  In a tree with distinct
identities a child that is removed is put back by an insertion at its old place.
-/

namespace Rulebook.RuleNode

/-! ## Searching for a new identity -/

theorem takeChild_append {before : List RuleNode} {node : RuleNode}
    (others : ∀ child ∈ before, child.id ≠ node.id) (after : List RuleNode) :
    takeChild node.id (before ++ node :: after) = some (before ++ after, node, before.length) := by
  induction before with
  | nil => rw [List.nil_append, takeChild, if_pos rfl, List.nil_append, List.length_nil]
  | cons child before ih =>
      obtain ⟨here, later⟩ := List.forall_mem_cons.mp others
      rw [List.cons_append, takeChild, if_neg here, ih later]
      rfl

theorem detachBelow_append {target : String} {before : List RuleNode} {child changed : RuleNode}
    {removal : Removal} (absent : ∀ earlier ∈ before, earlier.detach target = none)
    (found : child.detach target = some (changed, removal)) (after : List RuleNode) :
    detachBelow target (before ++ child :: after) = some (before ++ changed :: after, removal) := by
  induction before with
  | nil => rw [List.nil_append, detachBelow, found, List.nil_append]
  | cons earlier before ih =>
      obtain ⟨here, later⟩ := List.forall_mem_cons.mp absent
      rw [List.cons_append, detachBelow, here, ih later]
      rfl

/-- What is taken out of a tree is one of its nodes. -/
theorem detach_of_notMem {root : RuleNode} {target : String} (unknown : target ∉ root.ids) :
    root.detach target = none := by
  cases found : root.detach target with
  | none => rfl
  | some taken =>
      obtain ⟨rest, removal⟩ := taken
      have split := splits_of_detach found
      have among : target ∈ removal.node.ids ++ rest.ids := by
        rw [ids_eq_cons, split.node]
        exact List.mem_cons_self
      exact (unknown (split.ids.mem_iff.mpr among)).elim

/-- Among the children of a group, the node that has been put in is the first with its identity,
and below them it is where it has been put into one of them. -/
theorem detachFrom_of_placeIn {container : String} {index : Option Int} {node : RuleNode}
    {id : String} {children grown : List RuleNode}
    (each : ∀ child ∈ children, node.id ∉ child.ids → ∀ changed,
      insertInto container index node child = some changed →
        ∃ removal, changed.detach node.id = some (child, removal))
    (fresh : node.id ∉ children.flatMap ids)
    (placed : placeIn container index node id children = some grown) :
    ∃ removal, detachFrom node.id id grown = some (children, removal) := by
  have unknown : ∀ child ∈ children, node.id ∉ child.ids := by
    intro child member inside
    exact fresh (List.mem_flatMap.mpr ⟨child, member, inside⟩)
  have others : ∀ child ∈ children, child.id ≠ node.id := by
    rintro child member same
    refine unknown child member ?_
    rw [← same, ids_eq_cons]
    exact List.mem_cons_self
  rw [placeIn] at placed
  split at placed
  · cases placed
    have before : ∀ child ∈ children.take (clampIndex index children.length),
        child.id ≠ node.id := fun child member => others child (List.mem_of_mem_take member)
    rw [insertAt_eq, detachFrom, takeChild_append before, List.take_append_drop]
    exact ⟨_, rfl⟩
  · obtain ⟨before, child, after, changed, rfl, rfl, here, -⟩ := insertIntoOne_eq_some placed
    have member : child ∈ before ++ child :: after := by simp
    obtain ⟨removal, found⟩ := each child member (unknown child member) changed here
    have own : changed.id = child.id := (splits_of_detach found).root.symm
    have noChild : takeChild node.id (before ++ changed :: after) = none := by
      refine takeChild_eq_none.mpr ?_
      intro other among
      rcases List.mem_append.mp among with earlier | among
      · exact others other (List.mem_append_left _ earlier)
      · rcases List.mem_cons.mp among with rfl | later
        · rw [own]
          exact others child member
        · exact others other (List.mem_append_right _ (List.mem_cons_of_mem _ later))
    have absent : ∀ earlier ∈ before, earlier.detach node.id = none := by
      intro earlier among
      exact detach_of_notMem (unknown earlier (List.mem_append_left _ among))
    rw [detachFrom, noChild]
    exact ⟨removal, detachBelow_append absent found after⟩

/-- A node of a new identity that is put into a tree is taken out of it again. -/
theorem exists_detach_of_fresh {container : String} {index : Option Int}
    {node root grown : RuleNode} (fresh : node.id ∉ root.ids)
    (placed : insertInto container index node root = some grown) :
    ∃ removal, grown.detach node.id = some (root, removal) := by
  induction root generalizing grown with
  | scalar id condition => cases placed
  | group id logic children ih =>
      rw [insertInto_group] at placed
      obtain ⟨changed, below, rfl⟩ := Option.map_eq_some_iff.mp placed
      rw [ids_group, List.mem_cons, not_or] at fresh
      obtain ⟨removal, found⟩ := detachFrom_of_placeIn
        (fun child member unknown _ here => ih child member unknown here) fresh.2 below
      rw [detach_group, found]
      exact ⟨removal, rfl⟩
  | array id path quantifier predicateId predicateLogic predicate ih =>
      rw [insertInto_array] at placed
      obtain ⟨changed, below, rfl⟩ := Option.map_eq_some_iff.mp placed
      rw [ids_array, List.mem_cons, List.mem_cons, not_or, not_or] at fresh
      obtain ⟨removal, found⟩ := detachFrom_of_placeIn
        (fun child member unknown _ here => ih child member unknown here) fresh.2.2 below
      rw [detach_array, found]
      exact ⟨removal, rfl⟩

/-! ## Edits that are carried out -/

theorem apply_remove_of_detach {root rest : RuleNode} {target : String} {removal : Removal}
    (found : root.detach target = some (rest, removal)) :
    (Edit.remove target).apply root = rest := by
  rw [Edit.apply, remove?, found]
  rfl

theorem apply_insert_of_insertInto {root node grown : RuleNode} {container : String}
    {index : Option Int} (fresh : node.id ∉ root.ids)
    (placed : insertInto container index node root = some grown) :
    (Edit.insert container node index).apply root = grown := by
  rw [Edit.apply, Edit.insert_eq_ok.mpr ⟨fresh, placed⟩]

theorem exists_insertInto_of_mem_groupIds {root : RuleNode} {container : String}
    (known : container ∈ root.groupIds) (index : Option Int) (node : RuleNode) :
    ∃ grown, insertInto container index node root = some grown :=
  Option.isSome_iff_exists.mp (isSome_insertInto_iff.mpr known)

/-- A node that is removed from the group into which it has been inserted leaves the old tree. -/
theorem apply_remove_apply_insert {root node : RuleNode} {container : String}
    (known : container ∈ root.groupIds) (fresh : node.id ∉ root.ids) (index : Option Int) :
    (Edit.remove node.id).apply ((Edit.insert container node index).apply root) = root := by
  obtain ⟨grown, placed⟩ := exists_insertInto_of_mem_groupIds known index node
  obtain ⟨removal, found⟩ := exists_detach_of_fresh fresh placed
  rw [apply_insert_of_insertInto fresh placed]
  exact apply_remove_of_detach found

/-- A child that is inserted at the place from which it has been removed gives the old tree. -/
theorem apply_insert_apply_remove {root node : RuleNode} {container : String} {logic : Logic}
    {before after : List RuleNode} (distinct : root.ids.Nodup)
    (located : group container logic (before ++ node :: after) ∈ root.nodes) :
    (Edit.insert container node (some before.length)).apply ((Edit.remove node.id).apply root) =
      root := by
  have found := detach_eq distinct located
  have split := splits_of_detach found
  have fresh : node.id ∉ (root.setChildren container (before ++ after)).ids := by
    have apart := (List.nodup_append'.mp (split.ids.nodup_iff.mp distinct)).2.2
    refine apart ?_
    rw [ids_eq_cons]
    exact List.mem_cons_self
  rw [apply_remove_of_detach found]
  exact apply_insert_of_insertInto fresh (insertInto_of_detach distinct found)

/-! ## Edits that are rejected -/

/-- A removal changes nothing exactly when no group has the node as a child. -/
theorem apply_remove_eq_self_iff {root : RuleNode} {target : String} :
    (Edit.remove target).apply root = root ↔ ¬ root.IsListed target := by
  rw [← detach_eq_none_iff]
  cases found : root.detach target with
  | none =>
      refine iff_of_true ?_ rfl
      rw [Edit.apply, remove?, found]
      rfl
  | some taken =>
      obtain ⟨rest, removal⟩ := taken
      refine iff_of_false ?_ (Option.some_ne_none _)
      rw [apply_remove_of_detach found]
      rintro rfl
      -- The removed node is missing from the identities.
      have count := (splits_of_detach found).ids.length_eq
      rw [List.length_append, ids_eq_cons removal.node, List.length_cons] at count
      omega

/-- The root is no child. -/
theorem root_not_listed {root : RuleNode} (distinct : root.ids.Nodup) :
    ¬ root.IsListed root.id := by
  rintro ⟨container, childIds, lists, member⟩
  obtain ⟨logic, among⟩ := listsChildren_iff_mem_cards.mp lists
  have below : root.id ∈ root.listedIds := by
    rw [listedIds, Multiset.mem_bind]
    exact ⟨_, among, member⟩
  have whole : (root.ids : Multiset String).Nodup := distinct
  rw [coe_ids_eq_cons, Multiset.nodup_cons] at whole
  exact whole.1 below

/-- An insertion changes nothing exactly when the tree has no such group, or has the identity. -/
theorem apply_insert_eq_self_iff {root node : RuleNode} {container : String}
    {index : Option Int} :
    (Edit.insert container node index).apply root = root ↔
      container ∉ root.groupIds ∨ node.id ∈ root.ids := by
  constructor
  · intro same
    by_contra accepted
    obtain ⟨known, fresh⟩ := not_or.mp accepted
    rw [Classical.not_not] at known
    obtain ⟨grown, placed⟩ := exists_insertInto_of_mem_groupIds known index node
    rw [apply_insert_of_insertInto fresh placed] at same
    subst same
    -- The inserted node is one more among the identities.
    have count := (ids_perm_of_insertInto placed).length_eq
    rw [List.length_append, ids_eq_cons node, List.length_cons] at count
    omega
  · intro rejected
    cases done : root.insert container node index with
    | error rejection => rw [Edit.apply, done]
    | ok grown =>
        obtain ⟨fresh, placed⟩ := Edit.insert_eq_ok.mp done
        have known := isSome_insertInto_iff.mp (Option.isSome_of_eq_some placed)
        exact (rejected.elim (absurd known) fresh).elim

/-! ## The laws -/

/-- What insertions into a tree and removals from it make of it. -/
structure InsertionLaws (root : RuleNode) : Prop where
  /-- A new node that is inserted into a group is removed without a trace. -/
  removed : ∀ container ∈ root.groupIds, ∀ node, node.id ∉ root.ids → ∀ index,
    (Edit.remove node.id).apply ((Edit.insert container node index).apply root) = root
  /-- A child that is removed from a group is put back by an insertion at its place. -/
  inserted : root.ids.Nodup → ∀ container logic children,
    group container logic children ∈ root.nodes →
      ∀ (place : Nat) node, children[place]? = some node →
        (Edit.insert container node (some place)).apply ((Edit.remove node.id).apply root) = root
  /-- Only children of groups are removed. -/
  unremoved : ∀ target, (Edit.remove target).apply root = root ↔ ¬ root.IsListed target
  /-- An identity that the tree does not have is no child's. -/
  unknown : ∀ target, target ∉ root.ids → ¬ root.IsListed target
  /-- The root and the predicates of array rules are no children. -/
  fixed : root.ids.Nodup → ∀ target, target = root.id ∨ root.HasPredicate target →
    ¬ root.IsListed target
  /-- Nodes are inserted into groups only, and only when their identity is new. -/
  uninserted : ∀ container node index, (Edit.insert container node index).apply root = root ↔
    container ∉ root.groupIds ∨ node.id ∈ root.ids

/-- Insertions and removals take each other back, and are rejected where there is nothing to
remove or no group to insert into. -/
theorem insertionLaws (root : RuleNode) : InsertionLaws root where
  removed container known node fresh index := apply_remove_apply_insert known fresh index
  inserted distinct container logic children located place node found := by
    obtain ⟨inside, here⟩ := List.getElem?_eq_some_iff.mp found
    have parted : children.take place ++ node :: children.drop (place + 1) = children := by
      rw [← here, List.getElem_cons_drop, List.take_append_drop]
    have length : (children.take place).length = place := by
      rw [List.length_take, Nat.min_eq_left inside.le]
    rw [← parted] at located
    have back := apply_insert_apply_remove distinct located
    rwa [length] at back
  unremoved target := apply_remove_eq_self_iff
  unknown target unknown := detach_eq_none_iff.mp (detach_of_notMem unknown)
  fixed distinct target spared := by
    rcases spared with rfl | predicate
    · exact root_not_listed distinct
    · exact (predicate.not_listed distinct).2
  uninserted container node index := apply_insert_eq_self_iff

/-- A group is inserted into a predicate and removed, an array rule is removed and put back, and
its predicate is not removed. -/
theorem insertionLaws_trioRule :
    (Edit.remove "r6").apply
        ((Edit.insert "r4" (.group "r6" .or []) (some (-1))).apply trioRule) = trioRule ∧
      (Edit.insert "r1" (.array "r3" (.text "teams[]") .any "r4" .or []) (some 1)).apply
          ((Edit.remove "r3").apply trioRule) = trioRule ∧
        (Edit.remove "r4").apply trioRule = trioRule := by
  have laws := insertionLaws trioRule
  refine ⟨?_, ?_, ?_⟩
  · exact laws.removed "r4" (by decide) (.group "r6" .or []) (by decide) _
  · exact laws.inserted (by decide) "r1" .and _ (self_mem_nodes _) 1 _ rfl
  · refine (laws.unremoved "r4").mpr (laws.fixed (by decide) "r4" (.inr ?_))
    exact ⟨"r3", .text "teams[]", .any, .or, [], by simp [trioRule, nodes, nodesOf]⟩

end Rulebook.RuleNode
