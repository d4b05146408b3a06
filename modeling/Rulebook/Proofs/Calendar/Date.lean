import Rulebook.Calendar.DateTime

/-!
# Numbers of dates

The date with a number has that number, so that the universal time of a number of microseconds is
that many microseconds after the start of 1970.
-/

namespace Rulebook

namespace Date

/-- Passing whole months keeps the day of the year. -/
theorem daysBeforeMonth_monthAndDay (year : Nat) {month : Nat} (given : month ≠ 0)
    (months day : Nat) :
    daysBeforeMonth year (monthAndDay year months month day).1 +
        (monthAndDay year months month day).2 =
      daysBeforeMonth year month + day := by
  induction months generalizing month day with
  | zero => rfl
  | succ months ih =>
      rw [monthAndDay]
      split
      · rfl
      · rename_i later
        rw [ih (Nat.succ_ne_zero month), daysBeforeMonth, if_neg given]
        omega

/-- The days before a year, by cycles of 400, 100, 4 and 1 years. -/
theorem daysBeforeYear_of_cycles {cycles century four single : Nat} (centuries : century ≤ 3)
    (fours : four ≤ 24) (singles : single ≤ 3) :
    daysBeforeYear (400 * cycles + 100 * century + 4 * four + single + 1) =
      146097 * cycles + 36524 * century + 1461 * four + 365 * single := by
  rw [daysBeforeYear, Nat.add_sub_cancel]
  have byFour : (400 * cycles + 100 * century + 4 * four + single) / 4 =
      100 * cycles + 25 * century + four := by omega
  have byHundred : (400 * cycles + 100 * century + 4 * four + single) / 100 =
      4 * cycles + century := by omega
  have byCycle : (400 * cycles + 100 * century + 4 * four + single) / 400 = cycles := by omega
  rw [byFour, byHundred, byCycle]
  omega

/-- The year of a day starts on that day or before it. -/
theorem daysBeforeYear_yearOfOrdinal_le (ordinal : Nat) :
    daysBeforeYear (yearOfOrdinal ordinal) ≤ ordinal - 1 := by
  rw [yearOfOrdinal]
  generalize ordinal - 1 = past
  have split := Nat.div_add_mod past 146097
  have inCycle : past % 146097 < 146097 := Nat.mod_lt _ (by decide)
  generalize past % 146097 = inCentury at split inCycle ⊢
  generalize past / 146097 = cycles at split ⊢
  have centuries : min 3 (inCentury / 36524) ≤ 3 := Nat.min_le_left _ _
  have passed : min 3 (inCentury / 36524) * 36524 ≤ inCentury := by omega
  have left : inCentury - min 3 (inCentury / 36524) * 36524 ≤ 36524 := by omega
  generalize min 3 (inCentury / 36524) = century at centuries passed left ⊢
  have fours : (inCentury - century * 36524) / 1461 ≤ 24 := by omega
  have singles : min 3 ((inCentury - century * 36524) % 1461 / 365) ≤ 3 := Nat.min_le_left _ _
  rw [daysBeforeYear_of_cycles centuries fours singles]
  omega

theorem ofParts?_eq_some {year month day : Nat} {date : Date}
    (found : ofParts? year month day = some date) :
    date.year = year ∧ date.month = month ∧ date.day = day := by
  rw [ofParts?] at found
  split at found
  · cases found
    exact ⟨rfl, rfl, rfl⟩
  · cases found

/-- The date with a number has that number. -/
theorem ordinal_of_ofOrdinal? {number : Nat} {date : Date}
    (found : ofOrdinal? number = some date) : date.ordinal = number := by
  rw [ofOrdinal?] at found
  split at found
  · cases found
  · have started := daysBeforeYear_yearOfOrdinal_le number
    have passed := daysBeforeMonth_monthAndDay (yearOfOrdinal number) Nat.one_ne_zero 11
      (number - daysBeforeYear (yearOfOrdinal number))
    rcases passing : monthAndDay (yearOfOrdinal number) 11 1
      (number - daysBeforeYear (yearOfOrdinal number)) with ⟨month, day⟩
    simp only [passing] at found passed
    obtain ⟨ofYear, ofMonth, ofDay⟩ := ofParts?_eq_some found
    have first : daysBeforeMonth (yearOfOrdinal number) 1 = 0 := rfl
    rw [ordinal, ofYear, ofMonth, ofDay]
    omega

end Date

/-- The universal time so many microseconds after the start of 1970 is that instant. -/
theorem DateTime.instant_of_ofEpochMicros? {micros : Int} {moment : DateTime}
    (found : ofEpochMicros? micros = some moment) :
    moment.offset = some .utc ∧ moment.instant = epochOrdinal * dayMicros + micros := by
  rw [ofEpochMicros?] at found
  dsimp only at found
  split at found
  · cases found
  · rename_i began
    obtain ⟨date, known, rfl⟩ := Option.map_eq_some_iff.mp found
    refine ⟨rfl, ?_⟩
    have number := Date.ordinal_of_ofOrdinal? known
    rw [instant, number]
    have divided := Nat.div_add_mod' (epochOrdinal * dayMicros + micros).toNat dayMicros
    rw [divided, Int.toNat_of_nonneg (Int.not_lt.mp began)]
    exact Int.sub_zero _

end Rulebook
