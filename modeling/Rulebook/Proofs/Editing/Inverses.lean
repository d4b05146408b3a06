import Rulebook.Proofs.Editing.Moves

/-!
# Edits taken back

In a tree with distinct identities a node that is taken out and put into its group at its old place
gives the old tree, and so does a node that is put in and taken out.  A move is the one behind the
other, and the move back is the other behind the one.
-/

namespace Rulebook.RuleNode

/-! ## The place of a child -/

/-- Whether a node is at a place among the children of a group of a rule. -/
def HasChildAt (root : RuleNode) (container target : String) (place : Nat) : Prop :=
  ∃ childIds, root.ListsChildren container childIds ∧ childIds[place]? = some target

instance (root : RuleNode) (container target : String) (place : Nat) :
    Decidable (root.HasChildAt container target place) :=
  decidable_of_iff (∃ listing ∈ root.listings, listing.1 = container ∧
      listing.2[place]? = some target)
    ⟨fun ⟨(_, childIds), among, here, found⟩ => ⟨childIds, here ▸ among, found⟩,
      fun ⟨childIds, among, found⟩ => ⟨(container, childIds), among, rfl, found⟩⟩

theorem listsChildren_of_mem_nodes {root : RuleNode} {container : String} {logic : Logic}
    {children : List RuleNode} (located : group container logic children ∈ root.nodes) :
    root.ListsChildren container (children.map RuleNode.id) :=
  listsChildren_iff.mpr ⟨logic, children, located, rfl⟩

theorem hasChildAt_of_mem_nodes {root node : RuleNode} {container : String} {logic : Logic}
    {before after : List RuleNode}
    (located : group container logic (before ++ node :: after) ∈ root.nodes) :
    root.HasChildAt container node.id before.length := by
  refine ⟨_, listsChildren_of_mem_nodes located, ?_⟩
  have inside : before.length < (before ++ node :: after).length := by simp
  rw [List.getElem?_map, List.getElem?_eq_getElem inside, List.getElem_append_right (Nat.le_refl _)]
  simp

theorem HasChildAt.hasChild {root : RuleNode} {container target : String} {place : Nat}
    (here : root.HasChildAt container target place) : root.HasChild container target := by
  obtain ⟨childIds, lists, found⟩ := here
  exact ⟨childIds, lists, List.mem_of_getElem? found⟩

theorem ListsChildren.nodup {root : RuleNode} {container : String} {childIds : List String}
    (distinct : root.ids.Nodup) (lists : root.ListsChildren container childIds) :
    childIds.Nodup := by
  obtain ⟨logic, among⟩ := listsChildren_iff_mem_cards.mp lists
  obtain ⟨others, split⟩ := Multiset.exists_cons_of_mem among
  have whole : (root.ids : Multiset String).Nodup := distinct
  rw [coe_ids_eq_cons, listedIds, split, Multiset.cons_bind, Multiset.nodup_cons,
    Multiset.nodup_add] at whole
  exact whole.2.1

/-- A node is a child of one group only. -/
theorem HasChild.unique {root : RuleNode} {first second target : String}
    (distinct : root.ids.Nodup) (one : root.HasChild first target)
    (other : root.HasChild second target) : first = second := by
  obtain ⟨listed, lists, member⟩ := one
  obtain ⟨logic, among⟩ := listsChildren_iff_mem_cards.mp lists
  obtain ⟨others, split⟩ := Multiset.exists_cons_of_mem among
  obtain ⟨before, after, rfl⟩ := List.append_of_mem member
  obtain ⟨-, -, elsewhere⟩ := listed_once distinct split
  obtain ⟨also, lists', member'⟩ := other
  obtain ⟨logic', among'⟩ := listsChildren_iff_mem_cards.mp lists'
  rw [split, Multiset.mem_cons] at among'
  rcases among' with same | outside
  · cases same
    rfl
  · exact (elsewhere _ outside member').elim

/-- A node that is a child has one place. -/
theorem HasChildAt.unique {root : RuleNode} {first second target : String} {place place' : Nat}
    (distinct : root.ids.Nodup) (one : root.HasChildAt first target place)
    (other : root.HasChildAt second target place') : first = second ∧ place = place' := by
  have container : first = second := one.hasChild.unique distinct other.hasChild
  subst container
  obtain ⟨listed, lists, here⟩ := one
  obtain ⟨also, lists', there⟩ := other
  cases lists.unique distinct lists'
  obtain ⟨inside, -⟩ := List.getElem?_eq_some_iff.mp here
  exact ⟨rfl, (List.getElem?_inj inside (lists.nodup distinct)).mp (here.trans there.symm)⟩

/-! ## Taking out and putting in -/

/-- Putting a node into a list of children parts the list at the place. -/
theorem insertAt_eq (index : Option Int) (node : RuleNode) (children : List RuleNode) :
    insertAt index node children =
      children.take (clampIndex index children.length) ++
        node :: children.drop (clampIndex index children.length) := by
  have place : (children.take (clampIndex index children.length)).length =
      clampIndex index children.length := by
    rw [List.length_take, Nat.min_eq_left (clampIndex_le index children.length)]
  have whole := insertIdx_length_append (children.take (clampIndex index children.length))
    (children.drop (clampIndex index children.length)) node
  rwa [List.take_append_drop, place] at whole

theorem insertAt_length_append (before after : List RuleNode) (node : RuleNode) :
    insertAt (some (before.length : Int)) node (before ++ after) = before ++ node :: after := by
  have place : clampIndex (some (before.length : Int)) (before ++ after).length =
      before.length := by
    simp [clampIndex]
  rw [insertAt_eq, place, List.take_left, List.drop_left]

/-- A node is put into the group of an identity. -/
theorem insertInto_eq {root : RuleNode} {container : String} {logic : Logic}
    {children : List RuleNode} (distinct : root.ids.Nodup)
    (located : group container logic children ∈ root.nodes) (index : Option Int)
    (node : RuleNode) :
    insertInto container index node root =
      some (root.setChildren container (insertAt index node children)) := by
  obtain ⟨grown, placed⟩ := Option.isSome_iff_exists.mp
    (isSome_insertInto_iff.mpr (mem_groupIds_of_mem_nodes located))
  obtain ⟨inner, old, also, rfl⟩ := exists_setChildren_of_insertInto distinct placed
  cases eq_of_id_eq distinct located also rfl
  exact placed

/-- A child is taken out of its group. -/
theorem detach_eq {root node : RuleNode} {container : String} {logic : Logic}
    {before after : List RuleNode} (distinct : root.ids.Nodup)
    (located : group container logic (before ++ node :: after) ∈ root.nodes) :
    root.detach node.id = some (root.setChildren container (before ++ after),
      { node, container, index := before.length }) := by
  have listed : root.IsListed node.id :=
    isListed_iff.mpr ⟨container, logic, _, located, node, by simp, rfl⟩
  cases found : root.detach node.id with
  | none => exact (detach_eq_none_iff.mp found listed).elim
  | some taken =>
      obtain ⟨rest, removal⟩ := taken
      have own := (splits_of_detach found).node
      obtain ⟨also⟩ := takesOut_of_detach distinct found
      rename_i origin inner front back node'
      have here := hasChildAt_of_mem_nodes located
      have there := hasChildAt_of_mem_nodes also
      rw [own] at there
      obtain ⟨rfl, place⟩ := here.unique distinct there
      have same := eq_of_id_eq distinct located also rfl
      injection same with _ _ children
      obtain ⟨rfl, behind⟩ := List.append_inj children place
      cases behind
      rfl

/-- The node at the place of a child is exchanged by taking the child out and putting the other
node in. -/
theorem exists_insertInto_of_detach {root rest : RuleNode} {target : String} {removal : Removal}
    (distinct : root.ids.Nodup) (found : root.detach target = some (rest, removal)) :
    ∃ logic before after, removal.index = before.length ∧
      group removal.container logic (before ++ removal.node :: after) ∈ root.nodes ∧
        ∀ node, insertInto removal.container (some (removal.index : Int)) node rest =
          some (root.setChildren removal.container (before ++ node :: after)) := by
  have apart := nodup_ids_of_detach distinct found
  obtain ⟨located⟩ := takesOut_of_detach distinct found
  rename_i container logic before after child
  refine ⟨logic, before, after, rfl, located, fun node => ?_⟩
  obtain ⟨inner, emptied⟩ :=
    mem_nodes_setChildren (before ++ after) (mem_groupIds_of_mem_nodes located)
  rw [insertInto_eq apart emptied, insertAt_length_append, setChildren_setChildren]

/-- A node that is taken out and put in again is where it was. -/
theorem insertInto_of_detach {root rest : RuleNode} {target : String} {removal : Removal}
    (distinct : root.ids.Nodup) (found : root.detach target = some (rest, removal)) :
    insertInto removal.container (some (removal.index : Int)) removal.node rest = some root := by
  obtain ⟨logic, before, after, -, located, exchanged⟩ := exists_insertInto_of_detach distinct found
  rw [exchanged, setChildren_own distinct located]

/-- A node that is put in and taken out again leaves the tree as it was. -/
theorem exists_detach_of_insertInto {container : String} {index : Option Int}
    {node rest grown : RuleNode} (distinct : rest.ids.Nodup) (after : grown.ids.Nodup)
    (placed : insertInto container index node rest = some grown) :
    ∃ place, grown.HasChildAt container node.id place ∧
      grown.detach node.id = some (rest, { node, container, index := place }) := by
  obtain ⟨logic, old, located, rfl⟩ := exists_setChildren_of_insertInto distinct placed
  obtain ⟨inner, among⟩ :=
    mem_nodes_setChildren (insertAt index node old) (mem_groupIds_of_mem_nodes located)
  have parted := insertAt_eq index node old
  generalize clampIndex index old.length = place at parted
  rw [parted] at among after ⊢
  refine ⟨_, hasChildAt_of_mem_nodes among, ?_⟩
  rw [detach_eq after among, setChildren_setChildren, List.take_append_drop,
    setChildren_own distinct located]

/-! ## Moves -/

/-- The place to ask for to bring a node back; in the same group the node itself is counted when
it is before that place. -/
def returnIndex (origin destination : String) (place final : Nat) : Int :=
  if origin = destination ∧ final < place then place + 1 else place

/-- The place that is asked for is the old one when the node is out of the tree. -/
theorem shifted_returnIndex (origin destination : String) (place final : Nat) :
    (if origin = destination && (final : Int) < returnIndex origin destination place final
      then returnIndex origin destination place final - 1
      else returnIndex origin destination place final) = place := by
  by_cases same : origin = destination
  · simp only [returnIndex, same, decide_true, true_and, Bool.true_and, decide_eq_true_eq]
    by_cases before : final < place
    · have counted : (final : Int) < place + 1 := by omega
      simp [before, counted]
    · have uncounted : ¬ (final : Int) < place := by omega
      simp [before, uncounted]
  · simp [returnIndex, same]

/-- The move back takes the node out of where it was put and puts it in where it was taken out. -/
theorem exists_return {root : RuleNode} {target destination : String} {index : Int}
    {moved : Moved} (distinct : root.ids.Nodup)
    (done : root.move target destination index = .ok moved) :
    ∃ origin place final, root.HasChildAt origin target place ∧
      moved.root.HasChildAt destination target final ∧
        moved.root.move target origin (returnIndex origin destination place final) =
          .ok { root, index := place } := by
  obtain ⟨rest, removal, found, -, -, -, placed⟩ := Edit.move_eq_ok done
  have split := splits_of_detach found
  have remaining := nodup_ids_of_detach distinct found
  obtain ⟨logic, before, after, place, located, -⟩ := exists_insertInto_of_detach distinct found
  have origin := hasChildAt_of_mem_nodes located
  obtain ⟨final, here, again⟩ := exists_detach_of_insertInto remaining
    (Edit.nodup_ids_of_move distinct done) placed
  rw [split.node] at origin here again
  refine ⟨removal.container, removal.index, final, place ▸ origin, here, ?_⟩
  -- The group that the node came from is in the rest, and so not in the node.
  have apart := (List.nodup_append'.mp (split.ids.nodup_iff.mp distinct)).2.2
  have outside : removal.container ∉ removal.node.ids :=
    fun inside => apart inside (mem_ids_of_mem_groupIds split.container)
  have other : removal.container ≠ target := by
    rintro same
    rw [same, ← split.node, ids_eq_cons] at outside
    exact outside List.mem_cons_self
  have without : removal.node.groupIds.contains removal.container = false := by
    rw [← Bool.not_eq_true, List.contains_iff_mem]
    exact fun inside => outside (mem_ids_of_mem_groupIds inside)
  rw [move, again]
  simp only [other, decide_false, without, Bool.or_self, Bool.false_eq_true, if_false,
    shifted_returnIndex, insertInto_of_detach distinct found]

/-- An accepted move is taken back by a move.  The node has one place before and one after it, and
the move to the old place, which counts one more when the node stands before it in the same group,
gives the tree before the move. -/
theorem exists_move_back (root : RuleNode) (distinct : root.ids.Nodup)
    (target destination : String) (index : Int) (moved : Moved)
    (done : root.move target destination index = .ok moved) :
    (∃ origin place, root.HasChildAt origin target place) ∧
      (∃ final, moved.root.HasChildAt destination target final) ∧
        ∀ origin place final, root.HasChildAt origin target place →
          moved.root.HasChildAt destination target final →
            ∃ back, moved.root.move target origin
                (if origin = destination ∧ final < place then place + 1 else place) = .ok back ∧
              back.root = root := by
  obtain ⟨origin, place, final, here, there, back⟩ := exists_return distinct done
  refine ⟨⟨origin, place, here⟩, ⟨final, there⟩, fun origin' place' final' here' there' => ?_⟩
  obtain ⟨rfl, rfl⟩ := here.unique distinct here'
  obtain ⟨-, rfl⟩ := there.unique (Edit.nodup_ids_of_move distinct done) there'
  exact ⟨_, back, rfl⟩

/-- Three children of a group, one of them with a predicate. -/
def trioRule : RuleNode :=
  .group "r1" .and
    [.group "r2" .or [], .array "r3" (.text "teams[]") .any "r4" .or [], .group "r5" .and []]

/-- The last child of a group is brought to its front and, counting itself, behind both others
again; the first child is brought into the predicate and out of it. -/
theorem move_back_trioRule :
    (∃ back, (group "r1" .and [.group "r5" .and [], .group "r2" .or [],
          .array "r3" (.text "teams[]") .any "r4" .or []]).move "r5" "r1" 3 = .ok back ∧
        back.root = trioRule) ∧
      ∃ back, (group "r1" .and [.array "r3" (.text "teams[]") .any "r4" .or [.group "r2" .or []],
          .group "r5" .and []]).move "r2" "r1" 0 = .ok back ∧
        back.root = trioRule := by
  constructor
  · exact (exists_move_back trioRule (by decide) "r5" "r1" 0 ⟨_, 0⟩ rfl).2.2 "r1" 2 0
      (by decide) (by decide)
  · exact (exists_move_back trioRule (by decide) "r2" "r4" 0 ⟨_, 0⟩ rfl).2.2 "r1" 0 0
      (by decide) (by decide)

/-! ## Sessions of moves -/

/-- Whether one accepted move leads from a tree to another. -/
def MovesTo (root next : RuleNode) : Prop :=
  ∃ target destination index moved,
    root.move target destination index = .ok moved ∧ moved.root = next

theorem MovesTo.nodup_ids {root next : RuleNode} (distinct : root.ids.Nodup)
    (step : MovesTo root next) : next.ids.Nodup := by
  obtain ⟨target, destination, index, moved, done, rfl⟩ := step
  exact Edit.nodup_ids_of_move distinct done

theorem MovesTo.symm {root next : RuleNode} (distinct : root.ids.Nodup)
    (step : MovesTo root next) : MovesTo next root := by
  obtain ⟨target, destination, index, moved, done, rfl⟩ := step
  obtain ⟨origin, place, final, -, -, back⟩ := exists_return distinct done
  exact ⟨target, origin, _, _, back, rfl⟩

/-- What accepted moves have made of a tree, accepted moves make the tree again. -/
theorem reflTransGen_movesTo_symm {root tree : RuleNode} (distinct : root.ids.Nodup)
    (session : Relation.ReflTransGen MovesTo root tree) :
    tree.ids.Nodup ∧ Relation.ReflTransGen MovesTo tree root := by
  induction session with
  | refl => exact ⟨distinct, .refl⟩
  | tail earlier step ih =>
      obtain ⟨before, back⟩ := ih
      exact ⟨step.nodup_ids before, .head (step.symm before) back⟩

end Rulebook.RuleNode
