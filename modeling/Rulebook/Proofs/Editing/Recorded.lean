import Rulebook.Proofs.Editing.Moves
import Rulebook.Proofs.Service.Recording
import Rulebook.Service.Editing

/-!
# Recorded edits

The edits come to the same trees with the events that they leave in the journal as without them.
Only a move can stop on the way.  Its event tells the place that was asked for, counted among the
children without the node but not yet brought into their bounds; an integer with too many digits
cannot be recorded, so that a node that can be moved is not moved there.
-/

namespace Rulebook

/-! ## Events of edits -/

theorem MoveRejection.exists_run_log_event (rejection : MoveRejection)
    (target destination : String) (journal : Journal) :
    ∃ later, (log (rejection.event target destination)).run journal = (.ok (), later) := by
  refine Journal.exists_run_log _ ?_ ?_ journal
  · cases rejection <;> simp [event, Journal.ownKeys]
  · cases rejection <;> rfl

theorem InsertRejection.exists_run_log_event (rejection : InsertRejection)
    (container target : String) (journal : Journal) :
    ∃ later, (log (rejection.event container target)).run journal = (.ok (), later) := by
  refine Journal.exists_run_log _ ?_ ?_ journal
  · cases rejection <;> simp [event, Journal.ownKeys]
  · cases rejection <;> rfl

namespace Moved

variable (target destination : String) (moved : Moved)

theorem keepsOff_event : ∀ field ∈ (moved.event target destination).fields,
    field.1 ∉ Journal.ownKeys := by
  simp [event, Journal.ownKeys]

theorem entriesAreShowable_event :
    Value.entriesAreShowable (moved.event target destination).fields =
      !Numeral.isTooLong moved.index := by
  simp [event, Value.entriesAreShowable, Value.isShowable]

end Moved

namespace RuleNode

/-! ## Insertions and removals -/

theorem exists_run_insertLogged (root : RuleNode) (container : String) (node : RuleNode)
    (index : Option Int) (journal : Journal) :
    ∃ later, (root.insertLogged container (.node node) index).run journal =
      (.ok (root.insert container node index).toOption, later) := by
  rw [insertLogged]
  cases root.insert container node index with
  | error rejection =>
      obtain ⟨later, recorded⟩ := rejection.exists_run_log_event container node.id journal
      exact ⟨later, ExceptT.bind_eq_ok.mpr ⟨(), later, recorded, rfl⟩⟩
  | ok grown => exact ⟨journal, rfl⟩

theorem exists_run_removeLogged (root : RuleNode) (target : String) (journal : Journal) :
    ∃ later, (root.removeLogged target).run journal =
      (.ok ((root.remove? target).map Prod.fst), later) := by
  rw [removeLogged]
  cases root.remove? target with
  | none => exact ⟨journal, rfl⟩
  | some removed =>
      obtain ⟨rest, container⟩ := removed
      obtain ⟨later, recorded⟩ := Journal.exists_run_log
        { logger := editorLogger, level := .info, event := "Rule removed"
          fields := [("node_id", .text target), ("container_id", .text container)] }
        (by simp [Journal.ownKeys]) rfl journal
      exact ⟨later, ExceptT.bind_eq_ok.mpr ⟨(), later, recorded, rfl⟩⟩

/-! ## Moves -/

section Moves

variable {root : RuleNode} {target destination : String} {index : Int}

theorem exists_run_moveLogged_of_rejected {rejection : MoveRejection}
    (rejected : root.move target destination index = .error rejection) (journal : Journal) :
    ∃ later, (root.moveLogged target destination index).run journal = (.ok none, later) := by
  obtain ⟨later, recorded⟩ := rejection.exists_run_log_event target destination journal
  rw [moveLogged, rejected]
  exact ⟨later, ExceptT.bind_eq_ok.mpr ⟨(), later, recorded, rfl⟩⟩

variable {moved : Moved} (done : root.move target destination index = .ok moved)
  {journal : Journal}

include done

/-- A move that is carried out gives its tree unless its event is recorded and tells an integer
with too many digits. -/
theorem exists_run_moveLogged
    (recordable : journal.threshold ≤ EventLevel.info.gravity →
      Numeral.isTooLong moved.index = false) :
    ∃ later, (root.moveLogged target destination index).run journal =
      (.ok (some moved.root), later) := by
  obtain ⟨later, recorded⟩ :=
    (Journal.exists_run_log_iff (moved.keepsOff_event target destination) journal).mpr
      fun level => by rw [Moved.entriesAreShowable_event, recordable level, Bool.not_false]
  rw [moveLogged, done]
  exact ⟨later, ExceptT.bind_eq_ok.mpr ⟨(), later, recorded, rfl⟩⟩

theorem run_moveLogged_of_isTooLong (level : journal.threshold ≤ EventLevel.info.gravity)
    (long : Numeral.isTooLong moved.index = true) :
    (root.moveLogged target destination index).run journal =
      (.error .integerTooLong, journal) := by
  have stopped := Journal.run_log_of_not_showable (moved.keepsOff_event target destination) level
    (by rw [Moved.entriesAreShowable_event, long, Bool.not_true])
  rw [moveLogged, done]
  exact ExceptT.bind_eq_error.mpr (.inl stopped)

end Moves

end RuleNode

namespace Edit

/-- Carries out an edit and records its events. -/
def perform (root : RuleNode) : Edit → Logged (Option RuleNode)
  | move target destination index => root.moveLogged target destination index
  | insert container node index => root.insertLogged container (.node node) index
  | remove target => root.removeLogged target
  | replace target replacement => logged (root.replaceWith target (.node replacement))

/-- Whether nothing keeps an edit from being recorded: it is no move that is carried out and tells
an integer with too many digits, or such moves are below the level of the journal. -/
def IsRecordable (root : RuleNode) (threshold : Nat) : Edit → Prop
  | move target destination index => ∀ moved, root.move target destination index = .ok moved →
      threshold ≤ EventLevel.info.gravity → Numeral.isTooLong moved.index = false
  | insert .. | remove _ | replace .. => True

/-- An edit that can be recorded comes to its tree. -/
theorem exists_run_perform {edit : Edit} {root : RuleNode} {journal : Journal}
    (recordable : edit.IsRecordable root journal.threshold) :
    ∃ result later, (edit.perform root).run journal = (.ok result, later) ∧
      result.getD root = edit.apply root := by
  cases edit with
  | move target destination index =>
      rw [apply]
      cases outcome : root.move target destination index with
      | error rejection =>
          obtain ⟨later, ran⟩ := RuleNode.exists_run_moveLogged_of_rejected outcome journal
          exact ⟨none, later, ran, rfl⟩
      | ok moved =>
          obtain ⟨later, ran⟩ := RuleNode.exists_run_moveLogged outcome (recordable moved outcome)
          exact ⟨some moved.root, later, ran, rfl⟩
  | insert container node index =>
      obtain ⟨later, ran⟩ := root.exists_run_insertLogged container node index journal
      refine ⟨_, later, ran, ?_⟩
      rw [apply]
      cases root.insert container node index <;> rfl
  | remove target =>
      obtain ⟨later, ran⟩ := root.exists_run_removeLogged target journal
      exact ⟨_, later, ran, rfl⟩
  | replace target replacement => exact ⟨_, journal, rfl, rfl⟩

/-- An edit that cannot be recorded stops, and leaves the journal as it is. -/
theorem run_perform_of_not_isRecordable {edit : Edit} {root : RuleNode} {journal : Journal}
    (unrecordable : ¬ edit.IsRecordable root journal.threshold) :
    (edit.perform root).run journal = (.error .integerTooLong, journal) := by
  cases edit with
  | move target destination index =>
      simp only [IsRecordable, Classical.not_forall, Bool.not_eq_false] at unrecordable
      obtain ⟨moved, done, level, long⟩ := unrecordable
      exact RuleNode.run_moveLogged_of_isTooLong done level long
  | insert | remove | replace => exact (unrecordable trivial).elim

end Edit

namespace RuleNode

/-! ## Places -/

section Told

variable {root : RuleNode} {target destination : String} {index : Int} {journal : Journal}

end Told

end RuleNode

end Rulebook
