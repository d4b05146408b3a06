import Rulebook.Proofs.Path.Marking
import Rulebook.Proofs.Path.Stripping

/-!
# Canonical marks

The marks that a sample puts on a path depend on its keys only, so that a path that has been marked
is marked in the same way again.  A step is marked exactly when it leads to a sequence in the walk
that goes on from the first element that is not null, and where no step is, the path leads to the
same value whether or not sequences are represented by an element.
-/

namespace Rulebook.Path

/-- The text of a path with the marks that a sample puts on it. -/
def markedText (text : String) (sample : Value) : Except Fault String :=
  ((parse text).marked sample).map format

/-- The marks that a path has already do not matter for those that it gets. -/
theorem marked_stripped (path : Path) (sample : Value) :
    path.stripped.marked sample = path.marked sample := by
  induction path generalizing sample with
  | nil => rfl
  | cons segment path ih =>
      have same : stripped (segment :: path) = segment.unmarked :: stripped path := rfl
      rw [same, marked, marked]
      simp only [Segment.unmarked, ih]

section Marks

variable {path marks : Path} {sample : Value}

theorem stripped_of_marked (marked : path.marked sample = .ok marks) :
    marks.stripped = path.stripped := by
  induction path generalizing sample marks with
  | nil =>
      cases marked
      rfl
  | cons segment path ih =>
      obtain ⟨value, rest, -, further, rfl⟩ := marked_cons_eq_ok.mp marked
      have later : stripped rest = stripped path := ih further
      change segment.unmarked :: stripped rest = segment.unmarked :: stripped path
      rw [later]

theorem marked_of_marked (marked : path.marked sample = .ok marks) :
    marks.marked sample = .ok marks := by
  rw [← marked_stripped, stripped_of_marked marked, marked_stripped, marked]

/-- A step is marked when it leads to a sequence from where the walk is. -/
theorem isMarked_of_marked {front rest : Path} {segment : Segment}
    (marked : path.marked sample = .ok marks) (split : marks = front ++ segment :: rest) :
    segment.isMarked = ((reached true front sample).denoted segment.key).items?.isSome := by
  induction path generalizing sample marks front with
  | nil =>
      cases marked
      cases front <;> cases split
  | cons first path ih =>
      obtain ⟨value, later, step, further, rfl⟩ := marked_cons_eq_ok.mp marked
      obtain ⟨-, rfl⟩ := Value.child_eq_ok_iff.mp step
      cases front with
      | nil =>
          cases split
          rfl
      | cons head front =>
          obtain ⟨rfl, behind⟩ := List.cons_eq_cons.mp split
          rw [reached_cons]
          exact ih further behind

/-- A path that meets no sequence leads to one value. -/
theorem exists_resolve_of_isConcrete (marked : path.marked sample = .ok marks)
    (concrete : marks.isConcrete = true) :
    ∃ value, ∀ representative, path.resolve representative sample = .ok value := by
  induction path generalizing sample marks with
  | nil => exact ⟨sample, fun _ => rfl⟩
  | cons segment path ih =>
      obtain ⟨value, rest, step, further, rfl⟩ := marked_cons_eq_ok.mp marked
      rw [isConcrete, List.any_cons, Bool.not_eq_true', Bool.or_eq_false_iff,
        Option.isSome_eq_false_iff, Option.isNone_iff_eq_none] at concrete
      obtain ⟨single, unmarked⟩ := concrete
      rw [representativeOf_of_single single] at further
      obtain ⟨last, leads⟩ := ih further (by rw [isConcrete, unmarked]; rfl)
      refine ⟨last, fun representative => ?_⟩
      rw [resolve_cons, step]
      change resolve _ _ (representativeOf _ _ value) = _
      rw [representativeOf_of_single single, leads]

end Marks

/-- What the marked form of a path in a sample is like. -/
structure IsMarkedForm (text form : String) (sample : Value) : Prop where
  again : markedText form sample = .ok form
  of_stripped : markedText (strippedText text) sample = .ok form
  stripped : strippedText form = strippedText text
  /-- The walk through the sample goes on from the first element of a sequence that is not null. -/
  isMarked_iff : ∀ front segment rest, parse form = front ++ segment :: rest →
    (segment.isMarked = true ↔
      ((reached true front sample).denoted segment.key).items?.isSome = true)
  leads : (parse form).isConcrete = true →
    ∃ value, ∀ representative, (parse text).resolve representative sample = .ok value

/-- Marking a path whose keys are plain gives its canonical form in the sample. -/
theorem isMarkedForm_of_markedText {text form : String} {sample : Value}
    (plain : (parse text).HasPlainKeys) (written : markedText text sample = .ok form) :
    IsMarkedForm text form sample := by
  obtain ⟨marks, marked, rfl⟩ := Except.map_eq_ok.mp written
  have read : parse marks.format = marks :=
    parse_format (isWritable_of_marked (isWritable_unmarked plain) marked)
  exact
    { again := by rw [markedText, read, marked_of_marked marked]; rfl
      of_stripped := by
        rw [markedText, strippedText, parse_format_stripped plain, marked_stripped, marked]
        rfl
      stripped := by rw [strippedText, strippedText, read, stripped_of_marked marked]
      isMarked_iff := by
        rw [read]
        intro front segment rest split
        rw [isMarked_of_marked marked split]
      leads := by
        rw [read]
        exact exists_resolve_of_isConcrete marked }

/-- A student with a first entry that is null, and no sequence below the second. -/
def studentProfile : Value :=
  .mapping [("cursus", .list [.null, .mapping [("grade", .mapping [("title", .text "Member")]),
    ("skills", .tuple [])]])]

/-- The mark of `grade` is dropped, since the student has no sequence there. -/
theorem isMarkedForm_studentProfile :
    (parse "cursus.grade[].title").HasPlainKeys ∧
      markedText "cursus.grade[].title" studentProfile = .ok "cursus[].grade.title" ∧
      IsMarkedForm "cursus.grade[].title" "cursus[].grade.title" studentProfile := by
  have plain : (parse "cursus.grade[].title").HasPlainKeys := by
    unfold HasPlainKeys Segment.HasPlainKey
    decide +kernel
  have marked : markedText "cursus.grade[].title" studentProfile = .ok "cursus[].grade.title" := by
    rfl
  exact ⟨plain, marked, isMarkedForm_of_markedText plain marked⟩

end Rulebook.Path
