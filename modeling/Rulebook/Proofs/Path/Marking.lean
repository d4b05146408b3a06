import Rulebook.Proofs.Path.Resolution
import Rulebook.Proofs.Path.Written
import Rulebook.Proofs.Results

/-!
# Marking paths

The walk through a sample that marks a path: at a sequence it goes on from the first element that is
not null.  Below the steps that lead to no sequence it is where the path leads to in the sample.
-/

namespace Rulebook

theorem Value.mem_of_firstNonNull {items : List Value} (given : firstNonNull items ≠ .absent) :
    firstNonNull items ∈ items := by
  rw [firstNonNull] at given ⊢
  cases found : items.find? fun item => !item.isNull with
  | none =>
      rw [found] at given
      exact (given rfl).elim
  | some item => exact List.mem_of_find?_eq_some found

namespace Path

/-- The value that a sample has at a path, sequences being represented by their first element that
is not null, the last value too. -/
def leaf : Path → Value → Except Fault Value
  | [], current => .ok current
  | segment :: rest, current => do
      let value ← current.child segment.key
      leaf rest (representativeOf true false value)

theorem representativeOf_of_sequence {value : Value} {items : List Value}
    (sequence : value.items? = some items) :
    representativeOf true false value = Value.firstNonNull items := by
  rw [representativeOf, sequence]
  rfl

/-- Whether the last step of a path is marked. -/
def isMarkedAtEnd (path : Path) : Bool := path.getLast?.any Segment.isMarked

theorem leaf_absent (path : Path) : path.leaf .absent = .ok .absent := by
  induction path with
  | nil => rfl
  | cons segment path ih => exact ih

/-- One step of the marking: the step is marked when it leads to a sequence, and the further steps
are marked where the walk goes on. -/
theorem marked_cons_eq_ok {segment : Segment} {path marks : Path} {sample : Value} :
    marked (segment :: path) sample = .ok marks ↔
      ∃ value rest, sample.child segment.key = .ok value ∧
        marked path (representativeOf true false value) = .ok rest ∧
          marks = { key := segment.key, isMarked := value.items?.isSome } :: rest := by
  rw [marked, Except.bind_eq_ok]
  refine exists_congr fun value => ?_
  rw [exists_and_left]
  refine and_congr_right fun _ => ?_
  rw [representativeOf]
  cases value.items? <;>
  · refine Except.bind_eq_ok.trans (exists_congr fun rest => and_congr_right fun _ => ?_)
    exact ⟨fun same => (Except.ok.inj same).symm, fun same => congrArg _ same.symm⟩

theorem leaf_cons_of_child {segment : Segment} {path : Path} {sample value : Value}
    (step : sample.child segment.key = .ok value) :
    leaf (segment :: path) sample = leaf path (representativeOf true false value) := by
  rw [leaf, step]
  rfl

/-- What is marked can be walked. -/
theorem exists_leaf_of_marked {path marks : Path} {sample : Value}
    (marked : path.marked sample = .ok marks) : ∃ leaf, path.leaf sample = .ok leaf := by
  induction path generalizing sample marks with
  | nil => exact ⟨sample, rfl⟩
  | cons segment path ih =>
      obtain ⟨value, rest, step, further, -⟩ := marked_cons_eq_ok.mp marked
      rw [leaf_cons_of_child step]
      exact ih further

theorem isMarkedAtEnd_cons {path : Path} (segment : Segment) (atEnd : path.isMarkedAtEnd = true) :
    isMarkedAtEnd (segment :: path) = true := by
  cases path with
  | nil => cases atEnd
  | cons next path => exact atEnd

/-- A walk without steps ends where it begins. -/
theorem eq_leaf_of_marked_nil {path : Path} {sample leaf : Value}
    (marked : path.marked sample = .ok []) (walked : path.leaf sample = .ok leaf) :
    sample = leaf := by
  cases path with
  | nil => exact Except.ok.inj walked
  | cons segment path =>
      obtain ⟨value, rest, -, -, impossible⟩ := marked_cons_eq_ok.mp marked
      cases impossible

theorem ne_absent_of_leaf {path : Path} {sample leaf : Value}
    (walked : path.leaf sample = .ok leaf) (present : leaf.isPresent = true) :
    sample ≠ .absent := by
  rintro rfl
  rw [leaf_absent] at walked
  cases walked
  cases present

/-- The marked form of a path is read back when the keys are plain. -/
theorem isWritable_of_marked {path marks : Path} {sample : Value}
    (writable : ∀ segment ∈ path, segment.unmarked.IsWritable)
    (marked : path.marked sample = .ok marks) : ∀ segment ∈ marks, segment.IsWritable := by
  induction path generalizing sample marks with
  | nil =>
      cases marked
      exact fun _ member => (List.not_mem_nil member).elim
  | cons segment path ih =>
      obtain ⟨here, later⟩ := List.forall_mem_cons.mp writable
      obtain ⟨value, rest, -, further, rfl⟩ := marked_cons_eq_ok.mp marked
      exact List.forall_mem_cons.mpr ⟨⟨here.1, fun _ => here.2 rfl⟩, ih later further⟩

/-- Whether steps can be told from what is written for them and none of them is marked. -/
def IsPlain (path : Path) : Prop :=
  ∀ segment ∈ path, segment.isMarked = false ∧ segment.IsWritable

theorem isPlain_nil : IsPlain [] := fun _ member => (List.not_mem_nil member).elim

/-- Whether the steps of a path lead from a sample to a value and meet no sequence. -/
def LeadsTo (front : Path) (sample current : Value) : Prop :=
  ∀ representative rest,
    resolve representative (front ++ rest) sample = resolve representative rest current

theorem LeadsTo.refl (sample : Value) : LeadsTo [] sample sample := fun _ _ => rfl

section Steps

variable {front : Path} {sample current value : Value} {segment : Segment}

theorem LeadsTo.step (leads : LeadsTo front sample current)
    (step : current.child segment.key = .ok value) (single : value.items? = none) :
    LeadsTo (front ++ [segment.unmarked]) sample value := by
  intro representative rest
  have key : segment.unmarked.key = segment.key := rfl
  rw [List.append_assoc, leads, List.singleton_append, resolve_cons, key, step]
  change resolve _ _ (representativeOf _ _ value) = _
  rw [representativeOf_of_single single]

theorem LeadsTo.resolve_step (leads : LeadsTo front sample current)
    (step : current.child segment.key = .ok value) (representative : Bool) :
    resolve representative (front ++ [segment.unmarked]) sample = .ok value := by
  have key : segment.unmarked.key = segment.key := rfl
  rw [leads, resolve_cons, key, step]
  change resolve representative [] (representativeOf representative true value) = _
  rw [representativeOf_last, resolve]

theorem IsPlain.append (plain : front.IsPlain) (writable : segment.unmarked.IsWritable) :
    IsPlain (front ++ [segment.unmarked]) := by
  intro other member
  rcases List.mem_append.mp member with member | member
  · exact plain other member
  · cases List.mem_singleton.mp member
    exact ⟨rfl, writable⟩

theorem IsPlain.concat (plain : front.IsPlain) (unmarked : segment.isMarked = false)
    (writable : segment.unmarked.IsWritable) : IsPlain (front ++ [segment]) := by
  have same : segment.unmarked = segment := by rw [Segment.unmarked, ← unmarked]
  rw [← same]
  exact plain.append writable

theorem IsPlain.isConcrete (plain : front.IsPlain) : front.isConcrete = true := by
  rw [Path.isConcrete, Bool.not_eq_true', List.any_eq_false]
  intro segment member
  simp [(plain segment member).1]

theorem IsPlain.isWritable (plain : front.IsPlain) : ∀ segment ∈ front, segment.IsWritable :=
  fun segment member => (plain segment member).2

theorem IsPlain.parse_format (plain : front.IsPlain) : parse front.format = front :=
  Path.parse_format plain.isWritable

theorem IsPlain.stripped (plain : front.IsPlain) : front.stripped = front := by
  refine (List.map_congr_left fun segment member => ?_).trans (List.map_id front)
  rw [Segment.unmarked, ← (plain segment member).1]
  rfl

end Steps

end Path

end Rulebook
