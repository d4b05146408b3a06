import Rulebook.Path.Resolve
import Rulebook.Proofs.Text.Split

/-!
# Written paths

A path is read back from its written form when no key holds a dot and no unmarked step looks like a
marked one.  The steps of a path that has been read have no dots in their keys, so that the path
without its marks is read back as well, provided its keys do not end in a mark themselves; it leads
to the same values.
-/

namespace Rulebook

/-! ## Steps -/

namespace Segment

/-- Whether the key of a step is given and does not end in a mark. -/
def HasPlainKey (segment : Segment) : Prop :=
  segment.key ≠ "" ∧ ¬ arrayMarker <:+ segment.key.toList

/-- Whether a step can be told from what is written for it: its key holds no dot and, unless the
step is marked, is a plain one. -/
def IsWritable (segment : Segment) : Prop :=
  '.' ∉ segment.key.toList ∧ (segment.isMarked = false → segment.HasPlainKey)

theorem ofChars_of_suffix {part : List Char} (marked : arrayMarker <:+ part) :
    ∃ key, part = key ++ arrayMarker ∧
      ofChars part = { key := String.ofList key, isMarked := true } := by
  obtain ⟨key, rfl⟩ := marked
  refine ⟨key, rfl, ?_⟩
  simp [ofChars, arrayMarker]

theorem ofChars_of_not_suffix {part : List Char} (unmarked : ¬ arrayMarker <:+ part) :
    ofChars part = { key := String.ofList part } := by
  rw [ofChars, if_neg]
  intro ends
  exact unmarked (ends ▸ List.drop_suffix _ _)

theorem chars_ne_nil {segment : Segment} (writable : segment.IsWritable) : segment.chars ≠ [] := by
  obtain ⟨key, isMarked⟩ := segment
  cases isMarked with
  | true => simp [chars, arrayMarker]
  | false =>
      obtain ⟨given, -⟩ := writable.2 rfl
      simpa [chars] using given

theorem not_mem_chars {segment : Segment} (writable : segment.IsWritable) :
    '.' ∉ segment.chars := by
  rw [chars, List.mem_append, not_or]
  refine ⟨writable.1, ?_⟩
  split <;> simp [arrayMarker]

/-- A step is read back from its written form. -/
theorem ofChars_chars {segment : Segment} (writable : segment.IsWritable) :
    ofChars segment.chars = segment := by
  obtain ⟨key, isMarked⟩ := segment
  cases isMarked with
  | true => simp [chars, ofChars, arrayMarker]
  | false =>
      obtain ⟨-, plain⟩ := writable.2 rfl
      rw [chars, if_neg (by simp), List.append_nil, ofChars_of_not_suffix plain,
        String.ofList_toList]

end Segment

/-! ## Paths -/

namespace Path

/-- Whether the keys of all steps are plain ones. -/
def HasPlainKeys (path : Path) : Prop :=
  ∀ segment ∈ path, segment.HasPlainKey

/-- A written path falls apart into what is written for its steps. -/
theorem parse_format_eq {path : Path} (noDots : ∀ segment ∈ path, '.' ∉ segment.chars) :
    parse path.format =
      ((path.map Segment.chars).filter (!·.isEmpty)).map Segment.ofChars := by
  rw [parse, format, String.toList_ofList, ofChars, chars]
  cases path with
  | nil => rfl
  | cons segment path =>
      rw [Text.splitOnChar_intercalate (by simp)]
      intro part member
      obtain ⟨segment, among, rfl⟩ := List.mem_map.mp member
      exact noDots segment among

/-- A path is read back from its written form. -/
theorem parse_format {path : Path} (writable : ∀ segment ∈ path, segment.IsWritable) :
    parse path.format = path := by
  rw [parse_format_eq fun segment member => Segment.not_mem_chars (writable segment member),
    List.filter_eq_self.mpr, List.map_map]
  · refine (List.map_congr_left fun segment member => ?_).trans (List.map_id _)
    exact Segment.ofChars_chars (writable segment member)
  · intro part member
    obtain ⟨segment, among, rfl⟩ := List.mem_map.mp member
    simpa using Segment.chars_ne_nil (writable segment among)

/-- Only the path without steps is written as nothing. -/
theorem format_eq_empty_iff {path : Path} (writable : ∀ segment ∈ path, segment.IsWritable) :
    path.format = "" ↔ path = [] := by
  constructor
  · intro blank
    rw [← parse_format writable, blank]
    rfl
  · rintro rfl
    rfl

theorem chars_singleton (segment : Segment) : chars [segment] = segment.chars :=
  List.intercalate_singleton

theorem chars_cons_cons (segment next : Segment) (rest : Path) :
    chars (segment :: next :: rest) = segment.chars ++ '.' :: chars (next :: rest) := by
  rw [chars, List.map_cons, List.map_cons, List.intercalate_cons_cons, List.append_assoc]
  rfl

theorem chars_append {front rest : Path} (given : front ≠ []) (further : rest ≠ []) :
    chars (front ++ rest) = front.chars ++ '.' :: rest.chars := by
  induction front with
  | nil => exact (given rfl).elim
  | cons segment front ih =>
      cases front with
      | nil =>
          obtain ⟨next, rest, rfl⟩ := List.exists_cons_of_ne_nil further
          rw [List.singleton_append, chars_cons_cons, chars_singleton]
      | cons next front =>
          have later := ih (List.cons_ne_nil _ _)
          rw [List.cons_append] at later
          rw [List.cons_append, List.cons_append, chars_cons_cons, chars_cons_cons, later,
            List.append_assoc, List.cons_append]

/-- The mark of the last step stands at the end of what is written. -/
theorem format_unmarked_append_marker {segment : Segment} (isMarked : segment.isMarked = true)
    (front : Path) :
    format (front ++ [segment.unmarked]) ++ arrayMarkerText = format (front ++ [segment]) := by
  have single : chars [segment.unmarked] ++ arrayMarker = chars [segment] := by
    simp [chars_singleton, Segment.chars, Segment.unmarked, isMarked]
  rw [format, format, arrayMarkerText, ← String.ofList_append]
  refine congrArg String.ofList ?_
  by_cases top : front = []
  · rw [top]
    exact single
  · rw [chars_append top (List.cons_ne_nil _ _), chars_append top (List.cons_ne_nil _ _),
      ← single, List.append_assoc, List.cons_append]

/-- No key of a path that has been read holds a dot. -/
theorem not_mem_key_of_mem_parse {text : String} {segment : Segment}
    (member : segment ∈ parse text) : '.' ∉ segment.key.toList := by
  obtain ⟨part, among, rfl⟩ := List.mem_map.mp member
  have plain := Text.not_mem_of_mem_splitOnChar (List.mem_filter.mp among).1
  by_cases marked : arrayMarker <:+ part
  · obtain ⟨key, rfl, read⟩ := Segment.ofChars_of_suffix marked
    rw [List.mem_append, not_or] at plain
    rw [read, String.toList_ofList]
    exact plain.1
  · rw [Segment.ofChars_of_not_suffix marked, String.toList_ofList]
    exact plain

/-- A step that has been read without a mark has a plain key. -/
theorem hasPlainKey_of_mem_parse {text : String} {segment : Segment}
    (member : segment ∈ parse text) (unmarked : segment.isMarked = false) :
    segment.HasPlainKey := by
  obtain ⟨part, among, rfl⟩ := List.mem_map.mp member
  have given : part ≠ [] := by simpa using (List.mem_filter.mp among).2
  by_cases marked : arrayMarker <:+ part
  · obtain ⟨key, -, read⟩ := Segment.ofChars_of_suffix marked
    rw [read] at unmarked
    cases unmarked
  · rw [Segment.ofChars_of_not_suffix marked, Segment.HasPlainKey, String.toList_ofList]
    exact ⟨fun empty => given (by simpa using congrArg String.toList empty), marked⟩

@[simp]
theorem isConcrete_stripped (path : Path) : path.stripped.isConcrete = true := by
  simp [isConcrete, stripped, Segment.unmarked]

/-- The marks of a path do not matter for where it leads. -/
theorem resolve_stripped (representative : Bool) (path : Path) (document : Value) :
    path.stripped.resolve representative document = path.resolve representative document := by
  induction path generalizing document with
  | nil => rfl
  | cons segment path ih =>
      have same : stripped (segment :: path) = segment.unmarked :: stripped path := rfl
      have last : List.isEmpty (stripped path) = List.isEmpty path := by simp [stripped]
      rw [same, resolve, resolve, last]
      simp only [Segment.unmarked, ih]

/-- Without their marks the steps of a path that has been read can be written, when their keys are
plain. -/
theorem isWritable_unmarked {text : String} (plain : (parse text).HasPlainKeys) :
    ∀ segment ∈ parse text, segment.unmarked.IsWritable := by
  intro segment member
  have noDot : '.' ∉ segment.key.toList := not_mem_key_of_mem_parse member
  exact ⟨noDot, fun _ => plain segment member⟩

/-- The path without its marks is read back when its keys are plain. -/
theorem parse_format_stripped {text : String} (plain : (parse text).HasPlainKeys) :
    parse (parse text).stripped.format = (parse text).stripped := by
  refine parse_format fun segment member => ?_
  obtain ⟨original, among, rfl⟩ := List.mem_map.mp member
  exact isWritable_unmarked plain original among

theorem ofValue_text (text : String) : ofValue (.text text) = .ok (parse text) := by
  rw [ofValue, textOf]
  split
  · rfl
  · rename_i empty
    have blank : text = "" := by simpa [Value.isTruthy] using empty
    rw [blank]
    rfl

end Path

end Rulebook
