import Rulebook.Text.Split

/-!
# Splitting texts

A text in which the separator does not occur is its own only part; where it occurs, every part is
shorter than the text.  Joined by the separator the parts are the text again, and parts that hold no
separator are found again when they have been joined by it.
-/

namespace Rulebook.Text

theorem splitFrom_of_not_containsPart {separator text : List Char}
    (absent : containsPart separator text = false) (pending : List Char) :
    splitFrom separator 0 pending text = [pending.reverse ++ text] := by
  induction text generalizing pending with
  | nil => rw [splitFrom, List.append_nil]
  | cons c text ih =>
      rw [containsPart, Bool.or_eq_false_iff, Option.isSome_eq_false_iff, Option.isNone_iff_eq_none]
        at absent
      rw [splitFrom, absent.1]
      simp only [ih absent.2, List.reverse_cons, List.append_assoc, List.singleton_append]

theorem length_le_of_mem_splitFrom {separator text part : List Char} {skip : Nat}
    {pending : List Char} (member : part ∈ splitFrom separator skip pending text) :
    part.length ≤ pending.length + text.length := by
  induction text generalizing skip pending with
  | nil =>
      rw [splitFrom, List.mem_singleton] at member
      rw [member, List.length_reverse]
      exact Nat.le_add_right _ _
  | cons c text ih =>
      cases skip with
      | succ skip =>
          rw [splitFrom] at member
          have shorter := ih member
          rw [List.length_cons]
          omega
      | zero =>
          rw [splitFrom] at member
          split at member
          · rcases List.mem_cons.mp member with rfl | member
            · rw [List.length_reverse]
              exact Nat.le_add_right _ _
            · have shorter := ih member
              rw [List.length_nil] at shorter
              rw [List.length_cons]
              omega
          · have shorter := ih member
            rw [List.length_cons] at shorter ⊢
            omega

theorem length_lt_of_mem_splitFrom {separator text part : List Char} {pending : List Char}
    (given : separator ≠ []) (occurs : containsPart separator text = true)
    (member : part ∈ splitFrom separator 0 pending text) :
    part.length < pending.length + text.length := by
  induction text generalizing pending with
  | nil =>
      rw [containsPart, List.isEmpty_iff] at occurs
      exact (given occurs).elim
  | cons c text ih =>
      rw [splitFrom] at member
      rw [List.length_cons]
      split at member
      · rcases List.mem_cons.mp member with rfl | member
        · rw [List.length_reverse]
          omega
        · have shorter := length_le_of_mem_splitFrom member
          rw [List.length_nil] at shorter
          omega
      · rename_i here
        rw [containsPart, here, Option.isSome_none, Bool.false_or] at occurs
        have shorter := ih occurs member
        rw [List.length_cons] at shorter
        omega

theorem length_trimWhile_le (inClass : Char → Bool) (text : List Char) :
    (trimWhile inClass text).length ≤ text.length := by
  rw [trimWhile, List.length_reverse]
  refine Nat.le_trans (List.dropWhile_suffix _).length_le ?_
  rw [List.length_reverse]
  exact (List.dropWhile_suffix _).length_le

/-! ## Parts between separators -/

theorem not_mem_of_mem_splitOnChar {separator : Char} {text part : List Char}
    (member : part ∈ splitOnChar separator text) : separator ∉ part := by
  induction text generalizing part with
  | nil =>
      cases List.mem_singleton.mp member
      simp
  | cons c rest ih =>
      rw [splitOnChar] at member
      split at member
      · rcases List.mem_cons.mp member with rfl | member
        · simp
        · exact ih member
      · rename_i other
        split at member
        · cases List.mem_singleton.mp member
          simpa using Ne.symm other
        · rename_i first parts split
          rcases List.mem_cons.mp member with rfl | member
          · have plain : separator ∉ first := ih (split ▸ List.mem_cons_self)
            simp [plain, Ne.symm other]
          · exact ih (split ▸ List.mem_cons_of_mem first member)

theorem splitOnChar_of_not_mem {separator : Char} {text : List Char} (plain : separator ∉ text) :
    splitOnChar separator text = [text] := by
  induction text with
  | nil => rfl
  | cons c rest ih =>
      obtain ⟨other, plain⟩ := not_or.mp (mt List.mem_cons.mpr plain)
      rw [splitOnChar, if_neg (Ne.symm other), ih plain]

theorem splitOnChar_ne_nil (separator : Char) (text : List Char) :
    splitOnChar separator text ≠ [] := by
  cases text with
  | nil => exact List.cons_ne_nil _ _
  | cons c text =>
      rw [splitOnChar]
      split
      · exact List.cons_ne_nil _ _
      · split <;> exact List.cons_ne_nil _ _

/-- A separator parts what stands before it from what stands behind it. -/
theorem splitOnChar_append_separator (separator : Char) (front rest : List Char) :
    splitOnChar separator (front ++ separator :: rest) =
      splitOnChar separator front ++ splitOnChar separator rest := by
  induction front with
  | nil =>
      rw [List.nil_append, splitOnChar, splitOnChar, if_pos rfl, List.singleton_append]
  | cons c front ih =>
      rw [List.cons_append, splitOnChar, splitOnChar, ih]
      by_cases here : c = separator
      · rw [if_pos here, if_pos here, List.cons_append]
      · rw [if_neg here, if_neg here]
        cases parts : splitOnChar separator front with
        | nil => exact (splitOnChar_ne_nil _ _ parts).elim
        | cons part parts => rfl

theorem splitOnChar_append_cons {separator : Char} {front : List Char}
    (plain : separator ∉ front) (rest : List Char) :
    splitOnChar separator (front ++ separator :: rest) = front :: splitOnChar separator rest := by
  rw [splitOnChar_append_separator, splitOnChar_of_not_mem plain, List.singleton_append]

/-- Parts that hold no separator are found again when they have been joined by it. -/
theorem splitOnChar_intercalate {separator : Char} {parts : List (List Char)} (given : parts ≠ [])
    (plain : ∀ part ∈ parts, separator ∉ part) :
    splitOnChar separator ([separator].intercalate parts) = parts := by
  induction parts with
  | nil => exact (given rfl).elim
  | cons part parts ih =>
      obtain ⟨here, later⟩ := List.forall_mem_cons.mp plain
      cases parts with
      | nil => rw [List.intercalate_singleton, splitOnChar_of_not_mem here]
      | cons next parts =>
          rw [List.intercalate_cons_cons, List.append_assoc, List.singleton_append,
            splitOnChar_append_cons here, ih (by simp) later]

/-- The parts of a text are joined to the text again. -/
theorem intercalate_splitOnChar (separator : Char) (text : List Char) :
    [separator].intercalate (splitOnChar separator text) = text := by
  induction text with
  | nil => rfl
  | cons c text ih =>
      rw [splitOnChar]
      by_cases here : c = separator
      · obtain ⟨part, parts, split⟩ :=
          List.exists_cons_of_ne_nil (splitOnChar_ne_nil separator text)
        rw [if_pos here, split, List.intercalate_cons_cons, ← split, ih, here]
        rfl
      · rw [if_neg here]
        cases split : splitOnChar separator text with
        | nil => exact (splitOnChar_ne_nil _ _ split).elim
        | cons part parts =>
            rw [split] at ih
            rw [← ih]
            cases parts with
            | nil => rfl
            | cons next parts =>
                rw [List.intercalate_cons_cons, List.intercalate_cons_cons]
                rfl

/-- Whether there is nothing between two neighbouring separators of a text, its ends counting as
separators. -/
def HasEmptyPart (separator : Char) (text : List Char) : Prop :=
  ∃ front rest, text = front ++ rest ∧ (front = [] ∨ [separator] <:+ front) ∧
    (rest = [] ∨ [separator] <+: rest)

theorem hasEmptyPart_intercalate {separator : Char} {parts : List (List Char)}
    (empty : [] ∈ parts) : HasEmptyPart separator ([separator].intercalate parts) := by
  induction parts with
  | nil => cases empty
  | cons part parts ih =>
      cases parts with
      | nil =>
          cases List.mem_singleton.mp empty
          exact ⟨[], [], rfl, .inl rfl, .inl rfl⟩
      | cons next parts =>
          rw [List.intercalate_cons_cons]
          rcases List.mem_cons.mp empty with rfl | later
          · exact ⟨[], _, rfl, .inl rfl, .inr (List.prefix_append _ _)⟩
          · obtain ⟨front, rest, joined, before, behind⟩ := ih later
            refine ⟨part ++ [separator] ++ front, rest, ?_, .inr ?_, behind⟩
            · rw [joined, List.append_assoc _ front]
            · rcases before with rfl | before
              · rw [List.append_nil]
                exact List.suffix_append _ _
              · exact before.trans (List.suffix_append _ _)

/-- Splitting finds an empty part exactly when there is one. -/
theorem nil_mem_splitOnChar_iff {separator : Char} {text : List Char} :
    [] ∈ splitOnChar separator text ↔ HasEmptyPart separator text := by
  constructor
  · intro empty
    rw [← intercalate_splitOnChar separator text]
    exact hasEmptyPart_intercalate empty
  · rintro ⟨front, rest, rfl, before, behind⟩
    have first : [] ∈ splitOnChar separator rest := by
      rcases behind with rfl | ⟨later, rfl⟩
      · exact List.mem_singleton_self _
      · rw [List.singleton_append, splitOnChar, if_pos rfl]
        exact List.mem_cons_self
    rcases before with rfl | ⟨earlier, rfl⟩
    · exact first
    · rw [List.append_assoc, List.singleton_append, splitOnChar_append_separator]
      exact List.mem_append_right _ first

/-- Splitting at one character goes on behind the part under way. -/
theorem splitFrom_singleton (separator : Char) (pending text : List Char) :
    splitFrom [separator] 0 pending text =
      (splitOnChar separator text).modifyHead (pending.reverse ++ ·) := by
  induction text generalizing pending with
  | nil => rw [splitFrom, splitOnChar, List.modifyHead_cons, List.append_nil]
  | cons c text ih =>
      rw [splitFrom, splitOnChar, dropStart?]
      by_cases here : c = separator
      · rw [if_pos here, if_pos here.symm, dropStart?, List.length_singleton, ih]
        cases splitOnChar separator text <;> simp
      · rw [if_neg here, if_neg (Ne.symm here), ih]
        cases parts : splitOnChar separator text with
        | nil => exact (splitOnChar_ne_nil _ _ parts).elim
        | cons part parts => simp

theorem splitFrom_intercalate {separator : Char} {parts : List (List Char)} (given : parts ≠ [])
    (plain : ∀ part ∈ parts, separator ∉ part) :
    splitFrom [separator] 0 [] ([separator].intercalate parts) = parts := by
  rw [splitFrom_singleton, splitOnChar_intercalate given plain]
  cases parts <;> rfl

/-! ## Trimming -/

/-- Characters of the class at the two ends of a text make no difference. -/
theorem trimWhile_between {inClass : Char → Bool} {before after : List Char}
    (outer : ∀ c ∈ before ++ after, inClass c = true) (text : List Char) :
    trimWhile inClass (before ++ text ++ after) = trimWhile inClass text := by
  obtain ⟨first, last⟩ := List.forall_mem_append.mp outer
  rw [trimWhile, trimWhile, List.append_assoc, List.dropWhile_append_of_pos first,
    List.dropWhile_append]
  split
  · rename_i nothing
    rw [List.isEmpty_iff.mp nothing, ← List.append_nil after, List.dropWhile_append_of_pos last,
      List.dropWhile_nil]
  · rw [List.reverse_append, List.dropWhile_append_of_pos fun c member =>
      last c (List.mem_reverse.mp member)]

end Rulebook.Text
