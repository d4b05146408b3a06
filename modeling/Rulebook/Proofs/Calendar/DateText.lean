import Rulebook.Calendar.DateText
import Rulebook.Proofs.Calendar.IsoText

/-!
# Written dates as texts of a document

What is done to a text before it is read as a date leaves a written date as it is: it has no blanks
and no final `Z`, and each fraction of a second in it has six digits.
-/

namespace Rulebook

namespace Text

theorem isDecimal_of_isDigit {c : Char} (digit : c.isDigit = true) : isDecimal c = true := by
  rw [isDecimal, decimalValue?_of_isDigit digit, Option.isSome_some]

theorem isBlank_of_isDigit {c : Char} (digit : c.isDigit = true) : isBlank c = false := by
  have range := Char.isDigit_iff_toNat.mp digit
  have low : 48 ≤ c.toNat := range.1
  have high : c.toNat ≤ 57 := range.2
  simp only [isBlank, isWhiteSpace, Bool.or_eq_false_iff, Bool.and_eq_false_iff,
    decide_eq_false_iff_not, beq_eq_false_iff_ne]
  omega

theorem trimWhile_eq_self {inClass : Char → Bool} {text : List Char}
    (outside : ∀ c ∈ text, inClass c = false) : trimWhile inClass text = text := by
  have kept : ∀ {chars : List Char}, (∀ c ∈ chars, inClass c = false) →
      chars.dropWhile inClass = chars := by
    intro chars outside
    cases chars with
    | nil => rfl
    | cons c chars => rw [List.dropWhile_cons, outside c List.mem_cons_self, if_neg (by decide)]
  rw [trimWhile, kept outside, kept fun c member => outside c (List.mem_reverse.mp member),
    List.reverse_reverse]

end Text

/-- Whether a character occurs in written dates. -/
def isDateChar (c : Char) : Bool :=
  c.isDigit || c = '-' || c = ':' || c = '.' || c = 'T' || c = '+'

theorem isBlank_of_isDateChar {c : Char} (written : isDateChar c = true) :
    Text.isBlank c = false := by
  simp only [isDateChar, Bool.or_eq_true, decide_eq_true_eq] at written
  rcases written with ((((digit | rfl) | rfl) | rfl) | rfl) | rfl
  · exact Text.isBlank_of_isDigit digit
  all_goals rfl

theorem isDateChar_of_mem_paddedDigits {width value : Nat} {c : Char}
    (member : c ∈ paddedDigits width value) : isDateChar c = true := by
  simp [isDateChar, isDigit_of_mem_paddedDigits member]

theorem Date.isDateChar_of_mem {date : Date} {c : Char} (member : c ∈ date.isoChars) :
    isDateChar c = true := by
  simp only [isoChars, List.mem_append, List.mem_cons] at member
  rcases member with (digit | rfl | digit) | rfl | digit
  · exact isDateChar_of_mem_paddedDigits digit
  · rfl
  · exact isDateChar_of_mem_paddedDigits digit
  · rfl
  · exact isDateChar_of_mem_paddedDigits digit

theorem UtcOffset.isDateChar_of_mem {offset : UtcOffset} {c : Char}
    (member : c ∈ offset.isoChars) : isDateChar c = true := by
  simp only [isoChars, List.mem_append, List.mem_cons] at member
  rcases member with (((rfl | digit) | rfl | digit) | second) | fraction
  · split <;> rfl
  · exact isDateChar_of_mem_paddedDigits digit
  · rfl
  · exact isDateChar_of_mem_paddedDigits digit
  · split at second
    · cases second
    · rcases List.mem_cons.mp second with rfl | digit
      · rfl
      · exact isDateChar_of_mem_paddedDigits digit
  · split at fraction
    · cases fraction
    · rcases List.mem_cons.mp fraction with rfl | digit
      · rfl
      · exact isDateChar_of_mem_paddedDigits digit

theorem DateTime.isDateChar_of_mem {moment : DateTime} {c : Char}
    (member : c ∈ moment.isoCharsWith 'T') : isDateChar c = true := by
  simp only [isoCharsWith, List.mem_append, List.mem_cons] at member
  rcases member with (date | rfl | time) | offset
  · exact Date.isDateChar_of_mem date
  · rfl
  · rcases TimeOfDay.mem_isoChars time with digit | rfl | rfl
    · simp [isDateChar, digit]
    · rfl
    · rfl
  · split at offset
    · exact UtcOffset.isDateChar_of_mem offset
    · cases offset

namespace DateText

theorem expandZulu_of_isDateChar {text : List Char}
    (written : ∀ c ∈ text, isDateChar c = true) : expandZulu text = text := by
  rw [expandZulu]
  split
  · rename_i last found
    have other := written last (List.mem_of_getLast? found)
    split
    · rename_i zulu
      rw [Bool.or_eq_true, decide_eq_true_eq, decide_eq_true_eq] at zulu
      rcases zulu with rfl | rfl <;> cases other
    · rfl
  · rfl

/-- Whether each point of a text is followed by exactly six digits. -/
def HasSixDigitFractions : List Char → Prop
  | [] => True
  | c :: rest =>
      (c = '.' → (rest.takeWhile Text.isDecimal).length = 6) ∧ HasSixDigitFractions rest

theorem HasSixDigitFractions.append {front rest : List Char}
    (noPoint : ∀ c ∈ front, c ≠ '.') (six : HasSixDigitFractions rest) :
    HasSixDigitFractions (front ++ rest) := by
  induction front with
  | nil => exact six
  | cons c front ih =>
      obtain ⟨here, later⟩ := List.forall_mem_cons.mp noPoint
      exact ⟨fun point => (here point).elim, ih later⟩

theorem HasSixDigitFractions.behind {front rest : List Char}
    (six : HasSixDigitFractions (front ++ '.' :: rest)) :
    (rest.takeWhile Text.isDecimal).length = 6 := by
  induction front with
  | nil => exact six.1 rfl
  | cons c front ih => exact ih six.2

theorem clockAndPoint?_eq_some {text clock rest : List Char}
    (found : clockAndPoint? text = some (clock, rest)) :
    ∃ front, clock = front ++ ['.'] ∧ text = front ++ '.' :: rest := by
  unfold clockAndPoint? at found
  split at found
  · rename_i h₁ h₂ m₁ m₂ s₁ s₂ rest
    split at found
    · cases found
      exact ⟨[h₁, h₂, ':', m₁, m₂, ':', s₁, s₂], rfl, rfl⟩
    · cases found
  · cases found

/-- A text whose fractions have six digits already is not changed. -/
theorem sixDigitFraction_eq_self {text : List Char} (six : HasSixDigitFractions text) :
    sixDigitFraction text = text := by
  induction text with
  | nil => rfl
  | cons c text ih =>
      rw [sixDigitFraction]
      split
      · rename_i clock rest found
        obtain ⟨front, rfl, same⟩ := clockAndPoint?_eq_some found
        rw [same] at six ⊢
        have width := six.behind
        obtain ⟨tail, joined⟩ := List.takeWhile_prefix Text.isDecimal (l := rest)
        have behind : rest.drop 6 = tail := by
          have dropped : (rest.takeWhile Text.isDecimal ++ tail).drop 6 = tail :=
            List.drop_left' width
          rwa [joined] at dropped
        simp only [width, Nat.sub_self, List.replicate_zero, List.append_nil,
          List.take_of_length_le (Nat.le_of_eq width), behind, List.append_assoc,
          List.cons_append, List.nil_append, joined]
      · rw [ih six.2]

theorem ne_point_of_mem_paddedDigits {width value : Nat} {c : Char}
    (member : c ∈ paddedDigits width value) : c ≠ '.' :=
  ne_of_isDigit (isDigit_of_mem_paddedDigits member) rfl

/-- A point with six digits behind it. -/
theorem HasSixDigitFractions.fraction {micro : Nat} {rest : List Char}
    (stops : rest.takeWhile Text.isDecimal = []) (six : HasSixDigitFractions rest) :
    HasSixDigitFractions ('.' :: (paddedDigits 6 micro ++ rest)) := by
  refine ⟨fun _ => ?_, .append (fun c => ne_point_of_mem_paddedDigits) six⟩
  rw [List.takeWhile_append_of_pos fun c member =>
    Text.isDecimal_of_isDigit (isDigit_of_mem_paddedDigits member), stops, List.append_nil,
    length_paddedDigits]

theorem hasSixDigitFractions_offset (offset : UtcOffset) :
    HasSixDigitFractions offset.isoChars := by
  rw [UtcOffset.isoChars]
  refine .append ?_ ?_
  · intro c member
    simp only [List.mem_append, List.mem_cons] at member
    rcases member with ((rfl | digit) | rfl | digit) | second
    · split <;> decide
    · exact ne_point_of_mem_paddedDigits digit
    · decide
    · exact ne_point_of_mem_paddedDigits digit
    · split at second
      · cases second
      · rcases List.mem_cons.mp second with rfl | digit
        · decide
        · exact ne_point_of_mem_paddedDigits digit
  · split
    · trivial
    · have six : HasSixDigitFractions
          ('.' :: (paddedDigits 6 (offset.micros.natAbs % 1000000) ++ [])) :=
        .fraction rfl trivial
      rwa [List.append_nil] at six

theorem hasSixDigitFractions_time {time : TimeOfDay} {rest : List Char}
    (stops : rest.takeWhile Text.isDecimal = []) (six : HasSixDigitFractions rest) :
    HasSixDigitFractions (time.isoChars ++ rest) := by
  rw [TimeOfDay.isoChars, List.append_assoc]
  refine .append ?_ ?_
  · intro c member
    simp only [List.mem_append, List.mem_cons] at member
    rcases member with (digit | rfl | digit) | rfl | digit
    · exact ne_point_of_mem_paddedDigits digit
    · decide
    · exact ne_point_of_mem_paddedDigits digit
    · decide
    · exact ne_point_of_mem_paddedDigits digit
  · split
    · exact six
    · exact .fraction stops six

theorem ne_point_of_mem_date {date : Date} {c : Char} (member : c ∈ date.isoChars) : c ≠ '.' := by
  simp only [Date.isoChars, List.mem_append, List.mem_cons] at member
  rcases member with (digit | rfl | digit) | rfl | digit
  · exact ne_point_of_mem_paddedDigits digit
  · decide
  · exact ne_point_of_mem_paddedDigits digit
  · decide
  · exact ne_point_of_mem_paddedDigits digit

theorem hasSixDigitFractions_dateTime (moment : DateTime) :
    HasSixDigitFractions (moment.isoCharsWith 'T') := by
  rw [DateTime.isoCharsWith, List.append_assoc]
  refine .append (fun c => ne_point_of_mem_date) ?_
  have noPoint : 'T' ≠ '.' := by decide
  refine ⟨fun point => (noPoint point).elim, hasSixDigitFractions_time ?_ ?_⟩
  · split
    · rw [UtcOffset.isoChars]
      split <;> exact List.takeWhile_cons_of_neg (by decide)
    · rfl
  · split
    · exact hasSixDigitFractions_offset _
    · trivial

/-- A written date is read as its start. -/
theorem read?_date (date : Date) : read? date.isoChars = some (.ofDate date) := by
  have six : HasSixDigitFractions (date.isoChars ++ []) :=
    .append (fun c => ne_point_of_mem_date) trivial
  rw [List.append_nil] at six
  rw [read?, expandZulu_of_isDateChar fun c => date.isDateChar_of_mem,
    sixDigitFraction_eq_self six, IsoText.dateTime?_date]
  rfl

/-- A written point in time is read back, except for an offset of less than a second. -/
theorem read?_dateTime (moment : DateTime) :
    read? (moment.isoCharsWith 'T') = some moment.readBack := by
  rw [read?, expandZulu_of_isDateChar fun c => moment.isDateChar_of_mem,
    sixDigitFraction_eq_self (hasSixDigitFractions_dateTime moment), IsoText.dateTime?_isoChars]
  rfl

end DateText

end Rulebook
