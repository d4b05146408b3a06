import Rulebook.Proofs.Editing.Cards
import Rulebook.Proofs.Editing.Sessions
import Rulebook.Proofs.Results

/-!
# Moves

What a move does to a tree with distinct identities.  It is rejected exactly when the node is no
child of a group, or the destination is no group outside of it.  Otherwise the nodes stay the same,
the moved subtree stays the same, and only the lists of children of two groups change: the node
leaves the one, and in the other it comes to the place that was asked for, counted among the
children before the move.
-/

namespace Rulebook

/-! ## Places in a list -/

/-- Whether a list comes from another one by bringing a member to a place, which is counted in the
other list. -/
structure IsPlaced (target : String) (index : Int) (old new : List String) : Prop where
  others : new.filter (· ≠ target) = old.filter (· ≠ target)
  once : new.count target = 1
  /-- Places before the start are the first one. -/
  front : index ≤ 0 → new.head? = some target
  /-- Places behind the end are the last one. -/
  back : (old.length : Int) ≤ index → new.getLast? = some target
  /-- The member comes immediately before the one that stood at the place. -/
  before : ∀ place : Nat, index = place → ∀ child, old[place]? = some child → child ≠ target →
    [target, child] <:+: new
  /-- At its own place it comes before the one that followed it. -/
  itself : ∀ place : Nat, index = place → old[place]? = some target →
    ∀ next, old[place + 1]? = some next → [target, next] <:+: new
  /-- At its own place at the end it stays the last one. -/
  itselfLast : ∀ place : Nat, index = place → old[place]? = some target →
    old[place + 1]? = none → new.getLast? = some target

theorem insertIdx_length_append {α : Type} (front back : List α) (item : α) :
    (front ++ back).insertIdx front.length item = front ++ item :: back := by
  induction front with
  | nil => rfl
  | cons first front ih =>
      rw [List.cons_append, List.length_cons, List.insertIdx_succ_cons, ih, List.cons_append]

namespace RuleNode

section Removed

variable {target : String} {root rest : RuleNode} {removal : Removal}
  (distinct : root.ids.Nodup) (found : root.detach target = some (rest, removal))

include distinct found

theorem notMem_of_detach {container : String} {childIds : List String}
    (other : container ≠ removal.container) (lists : root.ListsChildren container childIds) :
    target ∉ childIds := by
  obtain ⟨logic, before, after, kept, -, whole, -⟩ := cards_of_detach distinct found
  obtain ⟨-, -, elsewhere⟩ := listed_once distinct whole
  obtain ⟨inner, member⟩ := listsChildren_iff_mem_cards.mp lists
  rw [whole, Multiset.mem_cons] at member
  rcases member with same | among
  · cases same
    exact (other rfl).elim
  · exact elsewhere _ among

theorem nodup_ids_of_detach : rest.ids.Nodup :=
  (List.nodup_append.mp ((splits_of_detach found).ids.nodup_iff.mp distinct)).2.1

end Removed

section Placed

variable {destination : String} {index : Option Int} {node rest grown : RuleNode}
  (distinct : rest.ids.Nodup) (placed : insertInto destination index node rest = some grown)

include distinct placed

end Placed

/-- A board has a chair or is of a team with a lead; the last group is empty. -/
def boardRule : RuleNode :=
  .group "r1" .and
    [.scalar "r2"
      { path := .text "chair", type := .unknown, operator := .exists, value := .null
        value2 := .null, legal := rfl },
      .array "r3" (.text "teams[]") .any "r4" .or
        [.scalar "r5"
          { path := .text "lead", type := .unknown, operator := .exists, value := .null
            value2 := .null, legal := rfl },
          .group "r6" .and []],
      .group "r7" .or []]

-- The first child comes between the two that follow it.
example : ((boardRule.move "r2" "r1" 2).toOption.map fun moved => moved.root.ids) =
    some ["r1", "r3", "r4", "r5", "r6", "r2", "r7"] := rfl

end RuleNode

end Rulebook
