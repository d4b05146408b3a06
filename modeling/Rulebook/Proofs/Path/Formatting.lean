import Rulebook.Proofs.Path.Written

/-!
# The written form of paths

A path is read back from its written form exactly when each of its steps can be told from what is
written for it.  This is so for every path that has been read, and what is written for it then is
the text that it was read from, less the empty parts.
-/

namespace Rulebook

theorem Segment.chars_ofChars (part : List Char) : (ofChars part).chars = part := by
  by_cases marked : arrayMarker <:+ part
  · obtain ⟨key, rfl, read⟩ := ofChars_of_suffix marked
    rw [read, chars, String.toList_ofList, if_pos rfl]
  · rw [ofChars_of_not_suffix marked, chars, String.toList_ofList, if_neg Bool.false_ne_true,
      List.append_nil]

namespace Path

theorem isWritable_of_mem_parse {text : String} {segment : Segment}
    (member : segment ∈ parse text) : segment.IsWritable :=
  ⟨not_mem_key_of_mem_parse member, hasPlainKey_of_mem_parse member⟩

theorem parse_format_eq_self_iff {path : Path} :
    parse path.format = path ↔ ∀ segment ∈ path, segment.IsWritable :=
  ⟨fun same _ member => isWritable_of_mem_parse (same.symm ▸ member), parse_format⟩

/-- What is written for a path that has been read is its parts, without the empty ones. -/
theorem chars_parse (text : String) :
    (parse text).chars =
      ['.'].intercalate ((Text.splitOnChar '.' text.toList).filter (!·.isEmpty)) := by
  have same (parts : List (List Char)) : parts.map (Segment.chars ∘ Segment.ofChars) = parts :=
    (List.map_congr_left fun part _ => Segment.chars_ofChars part).trans (List.map_id parts)
  rw [chars, parse, ofChars, List.map_map, same]

theorem format_parse_eq_self_iff {text : String} :
    (parse text).format = text ↔ text = "" ∨ ¬ Text.HasEmptyPart '.' text.toList := by
  rw [format, chars_parse, ← Text.nil_mem_splitOnChar_iff]
  constructor
  · intro same
    have joined := congrArg String.toList same
    rw [String.toList_ofList] at joined
    by_cases nothing : (Text.splitOnChar '.' text.toList).filter (!·.isEmpty) = []
    · rw [nothing] at same
      exact .inl same.symm
    · -- The parts that are kept are found again, so that they are all parts.
      have parts := Text.splitOnChar_intercalate nothing fun part member =>
        Text.not_mem_of_mem_splitOnChar (List.mem_filter.mp member).1
      rw [joined] at parts
      refine .inr fun empty => ?_
      rw [parts] at empty
      exact absurd (List.mem_filter.mp empty).2 (by decide)
  · rintro (rfl | given)
    · rfl
    · rw [List.filter_eq_self.mpr, Text.intercalate_splitOnChar, String.ofList_toList]
      intro part member
      rw [Bool.not_eq_true', List.isEmpty_eq_false_iff]
      rintro rfl
      exact given member

/-- Reading takes back writing for the paths whose steps can be told from what is written for them;
writing takes back reading for the texts that have no empty part, and for the empty text; and
reading finds again what it has found before. -/
theorem parse_format_iff_and_format_parse_iff :
    (∀ path, parse path.format = path ↔ ∀ segment ∈ path, segment.IsWritable) ∧
      ∀ text, parse (parse text).format = parse text ∧
        ((parse text).format = text ↔ text = "" ∨ ¬ Text.HasEmptyPart '.' text.toList) :=
  ⟨fun _ => parse_format_eq_self_iff, fun _ =>
    ⟨parse_format_eq_self_iff.mpr fun _ => isWritable_of_mem_parse, format_parse_eq_self_iff⟩⟩

/-- A key may end in a mark or be empty when its step is marked, and hold a mark within it anyway;
a text with empty parts does not come back. -/
theorem parse_format_bracketKeys :
    (∀ segment ∈ [⟨"a[]", true⟩, ⟨"", true⟩, ⟨"b[]c", false⟩], Segment.IsWritable segment) ∧
      parse (format [⟨"a[]", true⟩, ⟨"", true⟩, ⟨"b[]c", false⟩]) =
        [⟨"a[]", true⟩, ⟨"", true⟩, ⟨"b[]c", false⟩] ∧
      Text.HasEmptyPart '.' "teams..[].name".toList ∧
      (parse "teams..[].name").format ≠ "teams..[].name" := by
  obtain ⟨readsBack, laws⟩ := parse_format_iff_and_format_parse_iff
  have writable : ∀ segment ∈ [⟨"a[]", true⟩, ⟨"", true⟩, ⟨"b[]c", false⟩],
      Segment.IsWritable segment := by
    unfold Segment.IsWritable Segment.HasPlainKey
    decide +kernel
  have empty : Text.HasEmptyPart '.' "teams..[].name".toList := by
    rw [← Text.nil_mem_splitOnChar_iff]
    decide +kernel
  refine ⟨writable, (readsBack _).mpr writable, empty, fun same => ?_⟩
  rcases (laws _).2.mp same with nothing | given
  · exact absurd nothing (by decide)
  · exact given empty

end Path

end Rulebook
