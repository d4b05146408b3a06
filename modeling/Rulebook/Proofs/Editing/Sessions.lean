import Rulebook.Proofs.Editing.Identities

/-!
# Editing sessions

A session carries out edits one after the other, each on the tree that the one before has left; an
edit that is rejected leaves the tree as it is.  The identities of every tree of a session are
distinct exactly when each edit that is carried out brings in only identities that are new to its
tree.  An insertion looks for the root of what it inserts and not below it, and a replacement does
not look at all, so the edits themselves do not see to this.
-/

namespace Rulebook

/-- A structural edit of a rule. -/
inductive Edit where
  | move (target destination : String) (index : Int)
  | insert (container : String) (node : RuleNode) (index : Option Int)
  | remove (target : String)
  | replace (target : String) (replacement : RuleNode)

namespace Edit

/-- The tree after an edit; the same tree when the edit is rejected. -/
def apply (root : RuleNode) : Edit → RuleNode
  | move target destination index =>
      match root.move target destination index with
      | .ok moved => moved.root
      | .error _ => root
  | insert container node index =>
      match root.insert container node index with
      | .ok grown => grown
      | .error _ => root
  | remove target => ((root.remove? target).map (·.1)).getD root
  | replace target replacement => (root.replace? target replacement).getD root

/-- The subtree that an edit brings into a tree. -/
def incoming? : Edit → Option RuleNode
  | insert _ node _ => some node
  | replace _ replacement => some replacement
  | move .. | remove _ => none

/-- The identities that a tree keeps when the subtree of a node is taken away, when it has the
node in a place where it can be replaced. -/
def keptIds? (root : RuleNode) (target : String) : Option (List String) :=
  if root.id = target then some [] else (root.detach target).map fun (rest, _) => rest.ids

/-- Whether what an edit brings in, if it is carried out, has only identities that are new to the
tree.  The root of a replacement takes over the identity that it replaces, so only what is below
it counts. -/
def IsFresh (root : RuleNode) : Edit → Prop
  | insert container node _ =>
      node.id ∉ root.ids → container ∈ root.groupIds → ∀ id ∈ node.idsBelow, id ∉ root.ids
  | replace target replacement =>
      ∀ kept ∈ keptIds? root target, ∀ id ∈ replacement.idsBelow, id ≠ target ∧ id ∉ kept
  | move .. | remove _ => True

/-- The trees of a session, from the first to the last. -/
def trees (root : RuleNode) : List Edit → List RuleNode
  | [] => [root]
  | edit :: edits => root :: trees (edit.apply root) edits

/-- Whether every edit of a session is fresh for the tree that it meets. -/
def AllFresh (root : RuleNode) : List Edit → Prop
  | [] => True
  | edit :: edits => edit.IsFresh root ∧ AllFresh (edit.apply root) edits

/-! ## One edit -/

/-- A move that is carried out takes the node out and puts it into a group outside of it. -/
theorem move_eq_ok {root : RuleNode} {target destination : String} {index : Int}
    {moved : Moved} (done : root.move target destination index = .ok moved) :
    ∃ rest removal, root.detach target = some (rest, removal) ∧
      destination ≠ target ∧ destination ∉ removal.node.groupIds ∧
        moved.index = (if destination = removal.container && (removal.index : Int) < index
          then index - 1 else index) ∧
        RuleNode.insertInto destination (some moved.index) removal.node rest =
          some moved.root := by
  rw [RuleNode.move] at done
  split at done
  · cases done
  · rename_i rest removal found
    split at done
    · cases done
    · rename_i outside
      rw [Bool.or_eq_true, not_or, decide_eq_true_eq, List.contains_iff_mem] at outside
      refine ⟨rest, removal, found, outside.1, outside.2, ?_⟩
      dsimp only at done
      split at done
      · rename_i grown placed
        rw [← Except.ok.inj done]
        exact ⟨rfl, placed⟩
      · cases done

theorem nodup_ids_of_move {root : RuleNode} {target destination : String} {index : Int}
    {moved : Moved} (distinct : root.ids.Nodup)
    (done : root.move target destination index = .ok moved) : moved.root.ids.Nodup := by
  obtain ⟨rest, removal, found, -, -, -, placed⟩ := move_eq_ok done
  have split := (RuleNode.splits_of_detach found).ids
  have joined := RuleNode.ids_perm_of_insertInto placed
  exact (split.trans joined.symm).nodup_iff.mp distinct

theorem nodup_ids_of_remove {root rest : RuleNode} {target container : String}
    (distinct : root.ids.Nodup) (done : root.remove? target = some (rest, container)) :
    rest.ids.Nodup := by
  obtain ⟨⟨remaining, removal⟩, found, same⟩ := Option.map_eq_some_iff.mp done
  cases same
  have split := (RuleNode.splits_of_detach found).ids
  exact (List.nodup_append.mp (split.nodup_iff.mp distinct)).2.1

theorem insert_eq_ok {root node grown : RuleNode} {container : String} {index : Option Int} :
    root.insert container node index = .ok grown ↔
      node.id ∉ root.ids ∧ RuleNode.insertInto container index node root = some grown := by
  rw [RuleNode.insert, ← RuleNode.isSome_find?_iff]
  split
  · rename_i taken
    simp [taken]
  · rename_i free
    cases RuleNode.insertInto container index node root <;> simp [free]

/-- A carried out insertion keeps the identities distinct exactly when it brings in new ones. -/
theorem nodup_ids_of_insert_iff {root node grown : RuleNode} {container : String}
    {index : Option Int} (distinct : root.ids.Nodup) (own : node.ids.Nodup)
    (done : root.insert container node index = .ok grown) :
    grown.ids.Nodup ↔ ∀ id ∈ node.idsBelow, id ∉ root.ids := by
  obtain ⟨free, placed⟩ := insert_eq_ok.mp done
  rw [(RuleNode.ids_perm_of_insertInto placed).nodup_iff, List.nodup_append', RuleNode.ids_eq_cons]
  rw [RuleNode.ids_eq_cons] at own
  simp [own, distinct, free, List.Disjoint]

theorem replace?_eq_none {root replacement : RuleNode} {target : String}
    (located : keptIds? root target = none) : root.replace? target replacement = none := by
  rw [keptIds?] at located
  split at located
  · cases located
  · rename_i below
    rw [RuleNode.replace?, if_neg below, Option.map_eq_none_iff.mp located]
    rfl

/-- A located node is replaced, and that keeps the identities distinct exactly when those below
the root of the replacement are new. -/
theorem nodup_ids_of_replace_iff {root replacement : RuleNode} {target : String}
    {kept : List String} (distinct : root.ids.Nodup) (own : replacement.ids.Nodup)
    (located : keptIds? root target = some kept) :
    ∃ grown, root.replace? target replacement = some grown ∧
      (grown.ids.Nodup ↔ ∀ id ∈ replacement.idsBelow, id ≠ target ∧ id ∉ kept) := by
  rw [RuleNode.ids_eq_cons, List.nodup_cons] at own
  rw [keptIds?] at located
  split at located
  · rename_i atRoot
    cases located
    refine ⟨replacement.withId target, by rw [RuleNode.replace?, if_pos atRoot], ?_⟩
    rw [RuleNode.ids_withId, List.nodup_cons]
    constructor
    · rintro ⟨free, -⟩ id member
      exact ⟨fun same => free (same ▸ member), List.not_mem_nil⟩
    · intro fresh
      exact ⟨fun member => (fresh target member).1 rfl, own.2⟩
  · rename_i below
    obtain ⟨⟨rest, removal⟩, found, rfl⟩ := Option.map_eq_some_iff.mp located
    have split := RuleNode.splits_of_detach found
    have located : (RuleNode.insertInto removal.container (some (removal.index : Int))
        (replacement.withId target) rest).isSome :=
      RuleNode.isSome_insertInto_iff.mpr split.container
    obtain ⟨grown, placed⟩ := Option.isSome_iff_exists.mp located
    refine ⟨grown, by rw [RuleNode.replace?, if_neg below, found]; exact placed, ?_⟩
    have parts := List.nodup_append'.mp (split.ids.nodup_iff.mp distinct)
    have gone : target ∉ rest.ids := by
      refine parts.2.2 ?_
      rw [RuleNode.ids_eq_cons, split.node]
      exact List.mem_cons_self
    rw [(RuleNode.ids_perm_of_insertInto placed).nodup_iff, RuleNode.ids_withId,
      List.nodup_append', List.nodup_cons]
    constructor
    · rintro ⟨⟨free, -⟩, -, apart⟩ id member
      exact ⟨fun same => free (same ▸ member), apart (List.mem_cons_of_mem _ member)⟩
    · intro fresh
      refine ⟨⟨fun member => (fresh target member).1 rfl, own.2⟩, parts.2.1, ?_⟩
      intro id member
      rcases List.mem_cons.mp member with rfl | member
      · exact gone
      · exact (fresh id member).2

/-- An edit keeps the identities of a tree distinct exactly when it is fresh for the tree. -/
theorem nodup_ids_apply_iff {root : RuleNode} {edit : Edit} (distinct : root.ids.Nodup)
    (own : ∀ node ∈ edit.incoming?, node.ids.Nodup) :
    (edit.apply root).ids.Nodup ↔ edit.IsFresh root := by
  cases edit with
  | move target destination index =>
      rw [apply, IsFresh, iff_true]
      split
      · rename_i moved done
        exact nodup_ids_of_move distinct done
      · exact distinct
  | insert container node index =>
      rw [apply, IsFresh]
      split
      · rename_i grown done
        have accepted := insert_eq_ok.mp done
        rw [nodup_ids_of_insert_iff distinct (own node rfl) done]
        have located := RuleNode.isSome_insertInto_iff.mp (Option.isSome_of_eq_some accepted.2)
        simp [accepted.1, located]
      · rename_i rejected
        refine iff_of_true distinct fun free located => ?_
        obtain ⟨grown, placed⟩ :=
          Option.isSome_iff_exists.mp (RuleNode.isSome_insertInto_iff.mpr located)
        rw [insert_eq_ok.mpr ⟨free, placed⟩] at rejected
        cases rejected
  | remove target =>
      rw [apply, IsFresh, iff_true]
      cases done : root.remove? target with
      | none => exact distinct
      | some removed => exact nodup_ids_of_remove distinct done
  | replace target replacement =>
      rw [apply, IsFresh]
      cases located : keptIds? root target with
      | none =>
          rw [replace?_eq_none located]
          exact iff_of_true distinct (by simp)
      | some kept =>
          obtain ⟨grown, done, fresh⟩ :=
            nodup_ids_of_replace_iff distinct (own replacement rfl) located
          rw [done, Option.getD_some, fresh]
          simp

/-! ## Whole sessions -/

/-- In a session that starts with distinct identities and brings in subtrees with distinct
identities of their own, every tree has distinct identities exactly when every edit is fresh for
the tree it meets. -/
theorem nodup_ids_trees_iff (root : RuleNode) (edits : List Edit) (distinct : root.ids.Nodup)
    (own : ∀ edit ∈ edits, ∀ node ∈ edit.incoming?, node.ids.Nodup) :
    (∀ tree ∈ trees root edits, tree.ids.Nodup) ↔ AllFresh root edits := by
  induction edits generalizing root with
  | nil => simp [trees, AllFresh, distinct]
  | cons edit edits ih =>
      have step := nodup_ids_apply_iff distinct (own edit List.mem_cons_self)
      have later := fun next : (edit.apply root).ids.Nodup =>
        ih (edit.apply root) next fun edit member => own edit (List.mem_cons_of_mem _ member)
      rw [trees, AllFresh, List.forall_mem_cons, ← step]
      constructor
      · rintro ⟨-, rest⟩
        have next : (edit.apply root).ids.Nodup := by
          refine rest _ ?_
          cases edits <;> exact List.mem_cons_self
        exact ⟨next, (later next).mp rest⟩
      · rintro ⟨next, rest⟩
        exact ⟨distinct, (later next).mpr rest⟩

/-- A rule of a group in a group. -/
def nestedGroups : RuleNode := .group "r1" .and [.group "r2" .or []]

/-- An insertion that brings new identities, and a move of the inserted group. -/
def freshSession : List Edit :=
  [.insert "r2" (.group "r3" .and [.group "r4" .or []]) none, .move "r4" "r1" 0]

theorem nodup_ids_trees_freshSession :
    (∀ tree ∈ trees nestedGroups freshSession, tree.ids.Nodup) ↔
      AllFresh nestedGroups freshSession := by
  refine nodup_ids_trees_iff nestedGroups freshSession (by decide) ?_
  intro edit member node incoming
  rcases List.mem_cons.mp member with rfl | member
  · cases incoming
    decide
  · cases List.mem_singleton.mp member
    cases incoming

/-- Distinct identities do not stay distinct by themselves: a group with a child of a taken
identity is inserted as long as its own identity is free. -/
theorem not_forall_nodup_ids_trees :
    ¬ ∀ (root : RuleNode) (edits : List Edit), root.ids.Nodup →
      (∀ edit ∈ edits, ∀ node ∈ edit.incoming?, node.ids.Nodup) →
        ∀ tree ∈ trees root edits, tree.ids.Nodup := by
  intro law
  have kept := law nestedGroups [.insert "r1" (.group "r3" .and [.group "r2" .or []]) none]
    (by decide) (by
      intro edit member node incoming
      cases List.mem_singleton.mp member
      cases incoming
      decide)
  revert kept
  decide

end Edit

end Rulebook
