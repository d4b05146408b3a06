import Rulebook.Proofs.Path.Resolution
import Rulebook.Proofs.Path.Written

/-!
# Paths without their marks

A path without its marks is a text again, which is read step by step like any other.  What is read
has the keys of the path exactly when these are plain: an empty key is lost, and a key that ends in
a mark is read as a marked step with a shorter key.
-/

namespace Rulebook

namespace Segment

theorem chars_unmarked (segment : Segment) : segment.unmarked.chars = segment.key.toList :=
  List.append_nil _

theorem key_ofChars_eq_iff {part : List Char} :
    (ofChars part).key = String.ofList part ↔ ¬ arrayMarker <:+ part := by
  constructor
  · intro same marked
    obtain ⟨key, rfl, read⟩ := ofChars_of_suffix marked
    have chars := congrArg String.toList same
    rw [read, String.toList_ofList, String.toList_ofList] at chars
    exact absurd (List.self_eq_append_right.mp chars) (List.cons_ne_nil _ _)
  · intro plain
    rw [ofChars_of_not_suffix plain]

theorem isMarked_ofChars_iff {part : List Char} :
    (ofChars part).isMarked = true ↔ arrayMarker <:+ part := by
  constructor
  · intro isMarked
    by_contra plain
    rw [ofChars_of_not_suffix plain] at isMarked
    cases isMarked
  · intro marked
    obtain ⟨key, -, read⟩ := ofChars_of_suffix marked
    rw [read]

end Segment

namespace Path

section Rereading

variable {path : Path}

/-- What is left of a path without its marks is the keys, and the empty ones are passed over. -/
theorem parse_format_stripped_eq (noDots : ∀ segment ∈ path, '.' ∉ segment.key.toList) :
    parse path.stripped.format =
      ((path.map fun segment => segment.key.toList).filter (!·.isEmpty)).map
        Segment.ofChars := by
  rw [parse_format_eq, stripped, List.map_map]
  · exact congrArg (fun parts => (List.filter _ parts).map Segment.ofChars)
      (List.map_congr_left fun segment _ => segment.chars_unmarked)
  · intro segment member
    obtain ⟨original, among, rfl⟩ := List.mem_map.mp member
    rw [Segment.chars_unmarked]
    exact noDots original among

theorem stripped_eq_iff {path other : Path} :
    path.stripped = other.stripped ↔ path.map Segment.key = other.map Segment.key := by
  have keys (path : Path) : path.stripped = (path.map Segment.key).map (Segment.mk · false) := by
    rw [List.map_map]
    rfl
  rw [keys, keys]
  exact List.map_inj_right fun _ _ same => (Segment.mk.inj same).1

theorem map_key_eq (path : Path) :
    path.map Segment.key = (path.map (·.key.toList)).map String.ofList := by
  rw [List.map_map]
  exact List.map_congr_left fun segment _ => String.ofList_toList.symm

theorem hasPlainKeys_iff :
    path.HasPlainKeys ↔
      ∀ part ∈ path.map (·.key.toList), (!part.isEmpty) = true ∧ ¬ arrayMarker <:+ part := by
  rw [HasPlainKeys, List.forall_mem_map]
  refine forall₂_congr fun segment _ => and_congr_left fun _ => ?_
  rw [Bool.not_eq_true', List.isEmpty_eq_false_iff]
  exact not_congr String.toList_eq_nil_iff.symm

/-- Reading the path without its marks finds the same keys exactly when they are plain. -/
theorem keys_parse_format_stripped_iff
    (noDots : ∀ segment ∈ path, '.' ∉ segment.key.toList) :
    (parse path.stripped.format).map Segment.key = path.map Segment.key ↔
      path.HasPlainKeys := by
  rw [parse_format_stripped_eq noDots, map_key_eq path, hasPlainKeys_iff, List.map_map]
  generalize path.map (·.key.toList) = parts
  constructor
  · intro same
    -- A part that is passed over is missed in the number of keys.
    have given : ∀ part ∈ parts, (!part.isEmpty) = true := by
      have lengths := congrArg List.length same
      rw [List.length_map, List.length_map] at lengths
      exact List.length_filter_eq_length_iff.mp lengths
    rw [List.filter_eq_self.mpr given] at same
    intro part member
    exact ⟨given part member, Segment.key_ofChars_eq_iff.mp (List.map_inj_left.mp same part member)⟩
  · intro plain
    rw [List.filter_eq_self.mpr fun part member => (plain part member).1]
    exact List.map_congr_left fun part member =>
      Segment.key_ofChars_eq_iff.mpr (plain part member).2

/-- What is read is concrete when no key ends in a mark. -/
theorem isConcrete_parse_format_stripped_iff
    (noDots : ∀ segment ∈ path, '.' ∉ segment.key.toList) :
    (parse path.stripped.format).isConcrete = true ↔
      ∀ segment ∈ path, ¬ arrayMarker <:+ segment.key.toList := by
  rw [parse_format_stripped_eq noDots, isConcrete, Bool.not_eq_true', List.any_eq_false,
    List.forall_mem_map]
  constructor
  · intro unmarked segment member marked
    have given : (!segment.key.toList.isEmpty) = true := by
      obtain ⟨key, written⟩ := marked
      rw [← written]
      simp [arrayMarker]
    refine unmarked _ (List.mem_filter.mpr ⟨List.mem_map_of_mem member, given⟩) ?_
    exact Segment.isMarked_ofChars_iff.mpr marked
  · intro plain part member isMarked
    obtain ⟨segment, among, rfl⟩ := List.mem_map.mp (List.mem_filter.mp member).1
    exact plain segment among (Segment.isMarked_ofChars_iff.mp isMarked)

/-- The path without its marks leads to the same values exactly when the keys are plain. -/
theorem forall_resolve_parse_format_stripped_iff
    (noDots : ∀ segment ∈ path, '.' ∉ segment.key.toList) (representative : Bool) :
    (∀ document, (parse path.stripped.format).resolve representative document =
        path.resolve representative document) ↔ path.HasPlainKeys := by
  rw [← keys_parse_format_stripped_iff noDots]
  constructor
  · intro same
    have found := path.resolve_documentAt representative (.bool true)
    rw [← same] at found
    exact keys_of_resolve_documentAt found
  · intro keys document
    rw [← resolve_stripped _ (parse _), stripped_eq_iff.mpr keys, resolve_stripped]

theorem splitOnChar_format_stripped (noDots : ∀ segment ∈ path, '.' ∉ segment.key.toList)
    (given : path ≠ []) :
    Text.splitOnChar '.' path.stripped.format.toList = path.map (·.key.toList) := by
  have parts : path.stripped.map Segment.chars = path.map (·.key.toList) := by
    rw [stripped, List.map_map]
    exact List.map_congr_left fun segment _ => segment.chars_unmarked
  rw [format, String.toList_ofList, chars, parts]
  refine Text.splitOnChar_intercalate (by simpa using given) fun part member => ?_
  obtain ⟨segment, among, rfl⟩ := List.mem_map.mp member
  exact noDots segment among

/-- Taking the marks away again changes nothing when the keys are plain, or when there is nothing
but an empty key. -/
theorem format_stripped_parse_iff (noDots : ∀ segment ∈ path, '.' ∉ segment.key.toList) :
    (parse path.stripped.format).stripped.format = path.stripped.format ↔
      path.HasPlainKeys ∨ path.map Segment.key = [""] := by
  constructor
  · intro same
    by_cases nothing : path = []
    · subst nothing
      exact .inl (List.forall_mem_nil _)
    have parts := splitOnChar_format_stripped noDots nothing
    rw [← same] at parts
    by_cases lost : parse path.stripped.format = []
    · right
      rw [lost] at parts
      rw [map_key_eq, ← parts]
      rfl
    · left
      rw [splitOnChar_format_stripped (fun _ => not_mem_key_of_mem_parse) lost] at parts
      rw [← keys_parse_format_stripped_iff noDots, map_key_eq, map_key_eq path, parts]
  · rintro (plain | single)
    · have kept := (keys_parse_format_stripped_iff noDots).mpr plain
      exact congrArg format (stripped_eq_iff.mpr kept)
    · have blank : path.stripped = stripped [⟨"", false⟩] := stripped_eq_iff.mpr single
      rw [blank]
      rfl

end Rereading

/-! ## Written paths -/

/-- The text of a path without its marks. -/
def strippedText (text : String) : String := (parse text).stripped.format

/-- The text of the part of a path that leads to its first sequence, or to its end when no step is
marked. -/
def frontText (text : String) : String := (parse text).splitAtMarker.1.format

/-- The steps up to the first marked one, which is the last of them. -/
def leading (path : Path) : Path := path.take (path.findIdx Segment.isMarked + 1)

/-- The first part of a path that is split holds its leading steps, without the mark. -/
theorem splitAtMarker_fst (path : Path) : path.splitAtMarker.1 = path.leading.stripped := by
  induction path with
  | nil => rfl
  | cons segment path ih =>
      rw [splitAtMarker, leading, List.findIdx_cons]
      cases marked : segment.isMarked with
      | true => rfl
      | false =>
          have same : segment.unmarked = segment := by
            rw [Segment.unmarked, ← marked]
          simp only [Bool.false_eq_true, if_false, cond_false, List.take_succ_cons]
          rw [ih, stripped, stripped, List.map_cons, same, leading]

/-- Whether a path that is stripped or split has no marks left and leads where it has led. -/
structure RemovesMarks (text : String) : Prop where
  isConcrete : (parse (strippedText text)).isConcrete = true
  unchanged : strippedText (strippedText text) = strippedText text
  leads : ∀ representative document,
    (parse (strippedText text)).resolve representative document =
      (parse text).resolve representative document
  front_isConcrete : (parse (frontText text)).isConcrete = true
  front_leads : ∀ representative document,
    (parse (frontText text)).resolve representative document =
      (parse text).leading.resolve representative document

theorem keys_eq_blank_iff {text : String} :
    (parse text).map Segment.key = [""] ↔ parse text = [⟨"", true⟩] := by
  constructor
  · intro single
    obtain ⟨segment, read, blank⟩ := List.map_eq_singleton_iff.mp single
    have marked : segment.isMarked = true := by
      by_contra unmarked
      have member : segment ∈ parse text := read ▸ List.mem_singleton_self segment
      exact (hasPlainKey_of_mem_parse member (Bool.not_eq_true _ ▸ unmarked)).1 blank
    rw [read, ← blank, ← marked]
  · intro single
    rw [single]
    rfl

/-- Stripping and splitting remove every mark of a written path exactly when its keys are plain.
What is left is concrete when no key ends in a mark; taking the marks away again changes nothing
also when there is nothing but a mark; and for the part up to the first marked step only the keys of
this part matter. -/
theorem removesMarks_iff (text : String) :
    (RemovesMarks text ↔ (parse text).HasPlainKeys) ∧
      ((parse (strippedText text)).isConcrete = true ↔
        ∀ segment ∈ parse text, ¬ arrayMarker <:+ segment.key.toList) ∧
      (strippedText (strippedText text) = strippedText text ↔
        (parse text).HasPlainKeys ∨ parse text = [⟨"", true⟩]) ∧
      (∀ representative,
        (∀ document, (parse (strippedText text)).resolve representative document =
          (parse text).resolve representative document) ↔ (parse text).HasPlainKeys) ∧
      ((parse (frontText text)).isConcrete = true ↔
        ∀ segment ∈ (parse text).leading, ¬ arrayMarker <:+ segment.key.toList) ∧
      ∀ representative,
        (∀ document, (parse (frontText text)).resolve representative document =
          (parse text).leading.resolve representative document) ↔
            (parse text).leading.HasPlainKeys := by
  have noDots : ∀ segment ∈ parse text, '.' ∉ segment.key.toList :=
    fun _ => not_mem_key_of_mem_parse
  have inFront : ∀ segment ∈ (parse text).leading, segment ∈ parse text :=
    fun _ => List.mem_of_mem_take
  have noDotsInFront : ∀ segment ∈ (parse text).leading, '.' ∉ segment.key.toList :=
    fun segment member => noDots segment (inFront segment member)
  have front : frontText text = (parse text).leading.stripped.format :=
    congrArg format (splitAtMarker_fst (parse text))
  have again := format_stripped_parse_iff noDots
  rw [keys_eq_blank_iff] at again
  have leads := forall_resolve_parse_format_stripped_iff noDots
  have concrete := isConcrete_parse_format_stripped_iff noDots
  rw [front]
  have frontConcrete := isConcrete_parse_format_stripped_iff noDotsInFront
  have frontLeads := forall_resolve_parse_format_stripped_iff noDotsInFront
  refine ⟨⟨fun removes => ?_, fun plain => ?_⟩, concrete, again, leads, frontConcrete, frontLeads⟩
  · exact (leads false).mp (removes.leads false)
  · have plainInFront : (parse text).leading.HasPlainKeys :=
      fun segment member => plain segment (inFront segment member)
    exact
      { isConcrete := concrete.mpr fun segment member => (plain segment member).2
        unchanged := again.mpr (.inl plain)
        leads := fun representative => (leads representative).mpr plain
        front_isConcrete := by
          rw [front]
          exact frontConcrete.mpr fun segment member => (plainInFront segment member).2
        front_leads := by
          rw [front]
          exact fun representative => (frontLeads representative).mpr plainInFront }

/-- A second mark is left behind. -/
theorem not_forall_removesMarks : ¬ ∀ text, RemovesMarks text := by
  intro removes
  have concrete := (removes "a[][]").isConcrete
  have marked : (parse (strippedText "a[][]")).isConcrete = false := by decide +kernel
  rw [marked] at concrete
  cases concrete

end Path

end Rulebook
