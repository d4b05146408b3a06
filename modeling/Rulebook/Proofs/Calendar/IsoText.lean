import Mathlib.Algebra.Group.Nat.Defs
import Rulebook.Calendar.IsoText
import Rulebook.Proofs.Number.Numeral

/-!
# Reading written dates and times

The reader of ISO 8601 texts gives back what the writer has written.  An offset of less than a
second is the one thing that is lost: the reader takes its fraction for nothing when there is no
whole second before it.
-/

namespace Rulebook

/-! ## Digits -/

theorem length_paddedDigits (width value : Nat) : (paddedDigits width value).length = width := by
  induction width generalizing value with
  | zero => rfl
  | succ width ih => rw [paddedDigits, List.length_append, ih, List.length_singleton]

theorem digit_facts : ∀ digit < 10, (Char.ofNat ('0'.toNat + digit)).isDigit = true ∧
    (Char.ofNat ('0'.toNat + digit)).toNat - '0'.toNat = digit := by
  decide

theorem isDigit_of_mem_paddedDigits {width value : Nat} {c : Char}
    (member : c ∈ paddedDigits width value) : c.isDigit = true := by
  induction width generalizing value with
  | zero => cases member
  | succ width ih =>
      rw [paddedDigits, List.mem_append, List.mem_singleton] at member
      rcases member with earlier | rfl
      · exact ih earlier
      · exact (digit_facts (value % 10) (Nat.mod_lt _ (by decide))).1

namespace IsoText

theorem digits?_add (first second value : Nat) (text : List Char) :
    digits? (first + second) value text =
      (digits? first value text).bind fun (read, rest) => digits? second read rest := by
  induction first generalizing value text with
  | zero => rw [Nat.zero_add]; rfl
  | succ first ih =>
      rw [Nat.succ_add]
      cases text with
      | nil => rfl
      | cons c text =>
          rw [digits?, digits?]
          split
          · exact ih _ text
          · rfl

theorem digits?_paddedDigits (width start value : Nat) (rest : List Char) :
    digits? width start (paddedDigits width value ++ rest) =
      some (start * 10 ^ width + value % 10 ^ width, rest) := by
  induction width generalizing value rest with
  | zero => simp [digits?, paddedDigits, Nat.mod_one]
  | succ width ih =>
      have digit := digit_facts (value % 10) (Nat.mod_lt _ (by decide))
      rw [digits?_add, paddedDigits, List.append_assoc, ih]
      change digits? 1 _ (Char.ofNat ('0'.toNat + value % 10) :: rest) = _
      rw [digits?, if_pos digit.1, digits?, digit.2]
      have split : value % 10 ^ (width + 1) = 10 * (value / 10 % 10 ^ width) + value % 10 := by
        rw [Nat.pow_succ, Nat.mul_comm, Nat.mod_mul, Nat.add_comm]
      have carried : 10 * (start * 10 ^ width) = start * (10 ^ width * 10) := by ac_rfl
      rw [split, Nat.pow_succ, ← carried]
      congr 2
      omega

/-- A number of at most so many digits is read back. -/
theorem digits?_written {width value : Nat} (small : value < 10 ^ width) (rest : List Char) :
    digits? width 0 (paddedDigits width value ++ rest) = some (value, rest) := by
  rw [digits?_paddedDigits, Nat.zero_mul, Nat.zero_add, Nat.mod_eq_of_lt small]

/-! ## Clocks -/

namespace Clock

theorem read?_minutes {hour minute : Nat} (hourSmall : hour < 10 ^ 2)
    (minuteSmall : minute < 10 ^ 2)
    (rest : List Char) :
    read? 5 (paddedDigits 2 hour ++ ':' :: (paddedDigits 2 minute ++ rest)) =
      some { hour, minute, followed := goesOn rest } := by
  simp [read?, parts?, digits?_written hourSmall, digits?_written minuteSmall, set]

theorem read?_seconds {hour minute second : Nat} (hourSmall : hour < 10 ^ 2)
    (minuteSmall : minute < 10 ^ 2) (secondSmall : second < 10 ^ 2) (rest : List Char) :
    read? 8 (paddedDigits 2 hour ++ ':' :: (paddedDigits 2 minute ++ ':' ::
        (paddedDigits 2 second ++ rest))) =
      some { hour, minute, second, followed := goesOn rest } := by
  simp [read?, parts?, digits?_written hourSmall, digits?_written minuteSmall,
    digits?_written secondSmall, set]

theorem read?_micros {hour minute second micro : Nat} (hourSmall : hour < 10 ^ 2)
    (minuteSmall : minute < 10 ^ 2) (secondSmall : second < 10 ^ 2) (microSmall : micro < 10 ^ 6)
    (rest : List Char) :
    read? 15 (paddedDigits 2 hour ++ ':' :: (paddedDigits 2 minute ++ ':' ::
        (paddedDigits 2 second ++ '.' :: (paddedDigits 6 micro ++ rest)))) =
      some { hour, minute, second, micro, followed := goesOn (rest.dropWhile Char.isDigit) } := by
  simp [read?, parts?, fraction?, digits?_written hourSmall, digits?_written minuteSmall,
    digits?_written secondSmall, digits?_written microSmall, set]

end Clock

end IsoText

namespace TimeOfDay

theorem hour_lt (time : TimeOfDay) : time.hour < 24 := by
  have inDay := time.inDay
  rw [dayMicros] at inDay
  rw [hour]
  omega

theorem minute_lt (time : TimeOfDay) : time.minute < 60 := Nat.mod_lt _ (by decide)

theorem second_lt (time : TimeOfDay) : time.second < 60 := Nat.mod_lt _ (by decide)

theorem micro_lt (time : TimeOfDay) : time.micro < 1000000 := Nat.mod_lt _ (by decide)

/-- A time is the one that its parts show on a clock. -/
theorem ofClock?_parts (time : TimeOfDay) :
    ofClock? time.hour time.minute time.second time.micro = some time := by
  have total : ((time.hour * 60 + time.minute) * 60 + time.second) * 1000000 + time.micro =
      time.micros := by
    rw [hour, minute, second, micro]
    omega
  rw [ofClock?, dif_pos ⟨time.hour_lt, time.minute_lt, time.second_lt, time.micro_lt⟩]
  obtain ⟨micros, inDay⟩ := time
  simpa only [Option.some.injEq, TimeOfDay.mk.injEq] using total

/-- The characters of a written time. -/
theorem mem_isoChars {time : TimeOfDay} {c : Char} (member : c ∈ time.isoChars) :
    c.isDigit = true ∨ c = ':' ∨ c = '.' := by
  simp only [isoChars, List.mem_append, List.mem_cons] at member
  rcases member with ((digit | rfl | digit) | rfl | digit) | fraction
  · exact .inl (isDigit_of_mem_paddedDigits digit)
  · exact .inr (.inl rfl)
  · exact .inl (isDigit_of_mem_paddedDigits digit)
  · exact .inr (.inl rfl)
  · exact .inl (isDigit_of_mem_paddedDigits digit)
  · split at fraction
    · cases fraction
    · rcases List.mem_cons.mp fraction with rfl | digit
      · exact .inr (.inr rfl)
      · exact .inl (isDigit_of_mem_paddedDigits digit)

end TimeOfDay

namespace IsoText

/-- A written time is read back, whatever other than a digit follows it. -/
theorem Clock.read?_isoChars (time : TimeOfDay) {rest : List Char}
    (stops : rest.dropWhile Char.isDigit = rest) :
    Clock.read? time.isoChars.length (time.isoChars ++ rest) =
      some { hour := time.hour, minute := time.minute, second := time.second
             micro := time.micro, followed := goesOn rest } := by
  have hour := Nat.lt_trans time.hour_lt (show 24 < 10 ^ 2 by decide)
  have minute := Nat.lt_trans time.minute_lt (show 60 < 10 ^ 2 by decide)
  have second := Nat.lt_trans time.second_lt (show 60 < 10 ^ 2 by decide)
  by_cases whole : time.micro = 0
  · have read := read?_seconds hour minute second rest
    rw [whole]
    simpa [TimeOfDay.isoChars, whole, length_paddedDigits] using read
  · have read := read?_micros hour minute second time.micro_lt rest
    rw [stops] at read
    simpa [TimeOfDay.isoChars, whole, length_paddedDigits] using read

end IsoText

namespace UtcOffset

/-- The offset that is read from the written form of an offset. -/
def readBack (offset : UtcOffset) : UtcOffset :=
  if offset.micros.natAbs < 1000000 then utc else offset

theorem ofMicros?_eq (offset : UtcOffset) : ofMicros? offset.micros = some offset :=
  dif_pos offset.withinDay

/-- What the reader makes of the parts of a written offset. -/
theorem ofMicros?_parts (offset : UtcOffset) {seconds fraction : Nat} (small : fraction < 1000000)
    (parts : offset.micros.natAbs = seconds * 1000000 + fraction) :
    ofMicros? (if decide (offset.micros < 0) = true
        then -(if seconds = 0 then (0 : Int) else (seconds : Int) * 1000000 + fraction)
        else (if seconds = 0 then (0 : Int) else (seconds : Int) * 1000000 + fraction)) =
      some offset.readBack := by
  by_cases none : seconds = 0
  · have lost : offset.micros.natAbs < 1000000 := by omega
    rw [readBack, if_pos lost]
    simp only [if_pos none, Int.neg_zero, ite_self]
    rfl
  · have kept : ¬offset.micros.natAbs < 1000000 := by omega
    rw [readBack, if_neg kept]
    simp only [if_neg none]
    have same : (if decide (offset.micros < 0) = true
        then -((seconds : Int) * 1000000 + fraction)
        else (seconds : Int) * 1000000 + fraction) = offset.micros := by
      split
      · rename_i negative
        have sign := of_decide_eq_true negative
        omega
      · rename_i positive
        have sign := of_decide_eq_false (Bool.not_eq_true _ ▸ positive)
        omega
    rw [same, ofMicros?_eq]

/-- The clock that is read from a written offset behind its sign. -/
theorem read?_isoChars_tail (offset : UtcOffset) :
    IsoText.Clock.read? offset.isoChars.tail.length offset.isoChars.tail =
      some
        { hour := offset.micros.natAbs / 3600000000
          minute := offset.micros.natAbs / 60000000 % 60
          second := offset.micros.natAbs / 1000000 % 60
          micro := offset.micros.natAbs % 1000000 } := by
  have inDay := offset.withinDay
  rw [dayMicros] at inDay
  have hour : offset.micros.natAbs / 3600000000 < 10 ^ 2 := by omega
  have minute : offset.micros.natAbs / 60000000 % 60 < 10 ^ 2 :=
    Nat.lt_trans (Nat.mod_lt _ (by decide)) (show 60 < 10 ^ 2 by decide)
  have second : offset.micros.natAbs / 1000000 % 60 < 10 ^ 2 :=
    Nat.lt_trans (Nat.mod_lt _ (by decide)) (show 60 < 10 ^ 2 by decide)
  have micro : offset.micros.natAbs % 1000000 < 10 ^ 6 := Nat.mod_lt _ (by decide)
  by_cases whole : offset.micros.natAbs % 1000000 = 0
  · by_cases minutes : offset.micros.natAbs / 1000000 % 60 = 0
    · have read := IsoText.Clock.read?_minutes hour minute []
      simpa [isoChars, whole, minutes, length_paddedDigits, IsoText.goesOn] using read
    · have read := IsoText.Clock.read?_seconds hour minute second []
      simpa [isoChars, whole, minutes, length_paddedDigits, IsoText.goesOn] using read
  · have read := IsoText.Clock.read?_micros hour minute second micro []
    simpa [isoChars, whole, length_paddedDigits, IsoText.goesOn] using read

/-- A written offset is read back, unless it is shorter than a second. -/
theorem offset?_isoChars (offset : UtcOffset) :
    IsoText.offset? (decide (offset.micros < 0)) offset.isoChars.tail = some offset.readBack := by
  have parts : offset.micros.natAbs =
      ((offset.micros.natAbs / 3600000000 * 60 + offset.micros.natAbs / 60000000 % 60) * 60 +
        offset.micros.natAbs / 1000000 % 60) * 1000000 + offset.micros.natAbs % 1000000 := by
    omega
  rw [IsoText.offset?, read?_isoChars_tail]
  exact offset.ofMicros?_parts (Nat.mod_lt _ (by decide)) parts

end UtcOffset

namespace Date

theorem year_lt (date : Date) : date.year < 10 ^ 4 :=
  Nat.lt_of_le_of_lt date.valid.1.2 (by decide)

theorem month_lt (date : Date) : date.month < 10 ^ 2 :=
  Nat.lt_of_le_of_lt date.valid.2.1.2 (by decide)

theorem day_lt (date : Date) : date.day < 10 ^ 2 := by
  refine Nat.lt_of_le_of_lt date.valid.2.2.2 ?_
  rw [daysInMonth]
  split
  · split <;> decide
  · split <;> decide

theorem length_isoChars (date : Date) : date.isoChars.length = 10 := by
  simp [isoChars, length_paddedDigits]

theorem ofParts?_parts (date : Date) : ofParts? date.year date.month date.day = some date :=
  dif_pos date.valid

end Date

namespace IsoText

/-- A number of two digits does not open a week. -/
theorem exists_twoDigits (value : Nat) :
    ∃ tens ones, paddedDigits 2 value = [tens, ones] ∧ tens ≠ 'W' := by
  refine ⟨_, _, rfl, ?_⟩
  exact ne_of_isDigit (digit_facts (value / 10 % 10) (Nat.mod_lt _ (by decide))).1 rfl

/-- A written date has its hyphens where they mark a date by month and day. -/
theorem dateWidth_isoChars (date : Date) (rest : List Char) :
    dateWidth (date.isoChars ++ rest) = 10 := by
  obtain ⟨tens, ones, month, digit⟩ := exists_twoDigits date.month
  have long : (date.isoChars ++ rest).length ≠ 7 := by
    rw [List.length_append, date.length_isoChars]
    omega
  rw [dateWidth, if_neg long, Date.isoChars, month]
  simp [paddedDigits, digit]

theorem date?_isoChars (date : Date) (rest : List Char) :
    date? 10 (date.isoChars ++ rest) = some date := by
  obtain ⟨tens, ones, month, digit⟩ := exists_twoDigits date.month
  have read := digits?_written date.month_lt ('-' :: (paddedDigits 2 date.day ++ rest))
  simp only [month, List.cons_append, List.nil_append] at read
  simp only [date?, Date.isoChars, List.append_assoc, List.cons_append,
    digits?_written date.year_lt, month, hyphen?]
  simp [digit, read, digits?_written date.day_lt, date.ofParts?_parts]

/-- The written form of an offset that may be missing. -/
def offsetChars (offset : Option UtcOffset) : List Char :=
  match offset with
  | some offset => offset.isoChars
  | none => []

theorem opensOffset_of_mem_time {time : TimeOfDay} {c : Char} (member : c ∈ time.isoChars) :
    opensOffset c = false := by
  rcases TimeOfDay.mem_isoChars member with digit | rfl | rfl
  · have plus : c ≠ '+' := ne_of_isDigit digit rfl
    have minus : c ≠ '-' := ne_of_isDigit digit rfl
    have zulu : c ≠ 'Z' := ne_of_isDigit digit rfl
    simp [opensOffset, plus, minus, zulu]
  · rfl
  · rfl

theorem time?_isoChars (time : TimeOfDay) (offset : Option UtcOffset) :
    time? (time.isoChars ++ offsetChars offset) =
      some (time, offset.map UtcOffset.readBack) := by
  have stops : (offsetChars offset).takeWhile (fun c => !opensOffset c) = [] := by
    cases offset with
    | none => rfl
    | some offset =>
        rw [offsetChars, UtcOffset.isoChars]
        split <;> rfl
  have width : ((time.isoChars ++ offsetChars offset).takeWhile fun c => !opensOffset c) =
      time.isoChars := by
    rw [List.takeWhile_append_of_pos, stops, List.append_nil]
    intro c member
    rw [opensOffset_of_mem_time member]
    rfl
  have ends : (offsetChars offset).dropWhile Char.isDigit = offsetChars offset := by
    cases offset with
    | none => rfl
    | some offset =>
        rw [offsetChars, UtcOffset.isoChars]
        split <;> rfl
  rw [time?, width, Clock.read?_isoChars time ends]
  simp only [Option.bind_eq_bind, Option.bind_some, time.ofClock?_parts, List.drop_left]
  cases offset with
  | none => rfl
  | some offset =>
      have read := offset.offset?_isoChars
      rw [offsetChars, show offset.isoChars =
        (if offset.micros < 0 then '-' else '+') :: offset.isoChars.tail from rfl]
      by_cases negative : offset.micros < 0
      · simp only [negative, decide_true] at read
        simp [negative, read]
      · simp only [negative, decide_false] at read
        simp [negative, read]

end IsoText

namespace DateTime

/-- The point in time that is read from the written form of one. -/
def readBack (moment : DateTime) : DateTime :=
  { moment with offset := moment.offset.map UtcOffset.readBack }

end DateTime

namespace IsoText

/-- A written date is read as its start. -/
theorem dateTime?_date (date : Date) : dateTime? date.isoChars = some (.ofDate date) := by
  have width := dateWidth_isoChars date []
  have read := date?_isoChars date []
  rw [List.append_nil] at width read
  simp [dateTime?, width, read, date.length_isoChars]

/-- A written point in time is read back, except for an offset of less than a second. -/
theorem dateTime?_isoChars (moment : DateTime) :
    dateTime? (moment.isoCharsWith 'T') = some moment.readBack := by
  have form : moment.isoCharsWith 'T' =
      moment.date.isoChars ++ 'T' :: (moment.time.isoChars ++ offsetChars moment.offset) := by
    rw [DateTime.isoCharsWith, List.append_assoc]
    rfl
  have long : ¬(moment.isoCharsWith 'T').length < 7 := by
    rw [form, List.length_append, Date.length_isoChars]
    omega
  have further : ¬(moment.isoCharsWith 'T').length ≤ 10 := by
    rw [form, List.length_append, Date.length_isoChars, List.length_cons]
    omega
  have behind : (moment.isoCharsWith 'T').drop (10 + 1) =
      moment.time.isoChars ++ offsetChars moment.offset := by
    rw [form, ← moment.date.length_isoChars, List.drop_append, List.drop_of_length_le (by omega)]
    simp
  have width : dateWidth (moment.isoCharsWith 'T') = 10 := by
    rw [form, dateWidth_isoChars]
  have date : date? 10 (moment.isoCharsWith 'T') = some moment.date := by
    rw [form, date?_isoChars]
  simp only [dateTime?, if_neg long, width, date, if_neg further, behind, time?_isoChars,
    Option.bind_eq_bind, Option.bind_some]
  rfl

end IsoText

end Rulebook
