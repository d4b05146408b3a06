import Rulebook.Proofs.Calendar.Date
import Rulebook.Proofs.Condition.Ordering
import Rulebook.Proofs.Condition.Rereading

/-!
# Dates given as texts

A date, a point in time or a number of seconds since the start of 1970 may be given as the text of
the point in time that it is.  The text is accepted as the same instant, and conditions on dates do
not tell it from the value that it replaces.
-/

namespace Rulebook

/-- Whether a value is accepted as an instant. -/
def Value.HasInstant (value : Value) (instant : Int) : Prop :=
  ∃ moment, value.toMoment = .ok moment ∧ moment.instant = instant

/-- Whether a value is another one as it stands, or the text of the point in time that the other one
is. -/
inductive Value.WritesDate : Value → Value → Prop where
  | kept (value : Value) : WritesDate value value
  | date (date : Date) : WritesDate (.date date) (.text date.isoText)
  | dateTime {moment : DateTime} (whole : moment.hasWholeOffset = true) :
      WritesDate (.dateTime moment) (.text moment.isoText)
  | seconds {seconds : Int} {moment : DateTime}
      (accepted : (Value.int seconds).toMoment = .ok moment) :
      WritesDate (.int seconds) (.text moment.isoText)

/-! ## Instants -/

/-- A date is the start of its day in universal time. -/
theorem DateTime.instant_ofDate (date : Date) :
    (ofDate date).withOffset.instant = (date.ordinal * dayMicros : Nat) := by
  simp [instant, withOffset, ofDate, TimeOfDay.midnight, UtcOffset.utc]

theorem Value.ofEpochMicros?_of_momentOfSeconds {micros : Option Int} {value : Value}
    {moment : DateTime} (read : momentOfSeconds micros value = .ok moment) :
    micros.bind DateTime.ofEpochMicros? = some moment := by
  unfold momentOfSeconds at read
  split at read
  · rename_i known
    cases read
    exact known
  · cases read
  · cases read

/-- A number of seconds is accepted as the universal time that many seconds after the start of
1970. -/
theorem Value.instant_of_toMoment_int {seconds : Int} {moment : DateTime}
    (accepted : (int seconds).toMoment = .ok moment) :
    moment.offset = some .utc ∧
      moment.instant = DateTime.epochOrdinal * dayMicros + seconds * 1000000 := by
  obtain ⟨found, read, rfl⟩ := Except.map_eq_ok.mp accepted
  have known := ofEpochMicros?_of_momentOfSeconds read
  obtain ⟨universal, instant⟩ := DateTime.instant_of_ofEpochMicros? known
  refine ⟨?_, instant⟩
  rw [DateTime.withOffset, universal]
  rfl

namespace Value.WritesDate

variable {value written : Value} (writes : value.WritesDate written)

include writes

theorem isPresent_eq : written.isPresent = value.isPresent := by
  cases writes <;> rfl

theorem isNull_eq : written.isNull = value.isNull := by
  cases writes <;> rfl

/-- The text is read as the point in time that the value is. -/
theorem toMoment_eq : written.toMoment = value.toMoment := by
  cases writes with
  | kept => rfl
  | date date => exact toMoment_isoText_date date
  | @dateTime moment whole =>
      have same : (Value.dateTime moment).portable.toMoment = (Value.dateTime moment).toMoment :=
        toMoment_portable whole
      exact same
  | @seconds seconds moment accepted =>
      have universal := (instant_of_toMoment_int accepted).1
      have whole : moment.hasWholeOffset = true := by
        rw [DateTime.hasWholeOffset, universal]
        rfl
      rw [toMoment_isoText_dateTime, DateTime.readBack_withOffset whole, DateTime.withOffset,
        universal, accepted]
      exact congrArg (fun offset => Except.ok { moment with offset }) universal.symm

theorem read_eq : ValueType.date.read written = ValueType.date.read value := by
  rw [ValueType.read, ValueType.read, writes.toMoment_eq]

theorem readOperand_eq (name : String) :
    Operands.readOperand .date name written = Operands.readOperand .date name value := by
  rw [Operands.readOperand, Operands.readOperand, writes.isNull_eq, writes.read_eq]

theorem hasInstant {instant : Int} (known : value.HasInstant instant) :
    written.HasInstant instant := by
  rwa [HasInstant, writes.toMoment_eq]

end Value.WritesDate

/-! ## Conditions -/

namespace Operator

variable {operator : Operator} {candidate candidate' value value' value2 value2' : Value}
  {delimiter : Option String}

/-- An operator of dates tests alike against operands that are given as texts. -/
theorem test_of_writesDate (legal : ValueType.date.allows operator = true)
    (first : value.WritesDate value') (second : value2.WritesDate value2') :
    operator.test .date ⟨value', value2', delimiter⟩ =
      operator.test .date ⟨value, value2, delimiter⟩ := by
  funext subject
  have readsFirst := first.readOperand_eq "value"
  have readsSecond := second.readOperand_eq "value2"
  have relation (comparison : Comparison) :
      checkRelation .date comparison ⟨value', value2', delimiter⟩ subject =
        checkRelation .date comparison ⟨value, value2, delimiter⟩ subject := by
    rw [checkRelation, checkRelation, Operands.first, Operands.first, readsFirst]
  cases operator with
  | eq => exact relation .equal
  | neq => exact relation .different
  | before => exact relation .before
  | after => exact relation .after
  | between =>
      rw [test, test, checkBetween, checkBetween, Operands.first, Operands.first, Operands.second,
        Operands.second, readsFirst, readsSecond]
  | «exists» | notExists => rfl
  | _ => cases legal

/-- A condition on dates matches alike when its dates are given as texts. -/
theorem matched_of_writesDate (writes : candidate.WritesDate candidate')
    (first : value.WritesDate value') (second : value2.WritesDate value2') :
    (operator.applyTo .date ⟨value', value2', delimiter⟩ candidate').map Outcome.matched =
      (operator.applyTo .date ⟨value, value2, delimiter⟩ candidate).map Outcome.matched := by
  cases legal : ValueType.date.allows operator with
  | false =>
      unfold applyTo
      rw [legal]
      rfl
  | true =>
      cases reading : operator.readsValue with
      | true =>
          rw [applyTo_of_readsValue legal reading, applyTo_of_readsValue legal reading,
            writes.isPresent_eq, writes.read_eq, test_of_writesDate legal first second]
          split <;> rfl
      | false =>
          have present := writes.isPresent_eq
          cases operator with
          | «exists» | notExists =>
              change Except.ok _ = Except.ok _
              rw [matched_ofTest, matched_ofTest, present]
          | empty | notEmpty => cases legal
          | _ => cases reading

end Operator

/-- A date, which is the start of its day in universal time, a point in time with an offset that is
not shorter than a second, and a number of seconds are the same instants in the text of the point in
time, and conditions on dates match alike when the text is given. -/
theorem writtenDateLaws :
    (∀ date : Date,
      (Value.date date).HasInstant (date.ordinal * dayMicros : Nat) ∧
        (Value.text date.isoText).HasInstant (date.ordinal * dayMicros : Nat)) ∧
      (∀ moment : DateTime, moment.hasWholeOffset = true →
        (Value.dateTime moment).HasInstant moment.instant ∧
          (Value.text moment.isoText).HasInstant moment.instant) ∧
      (∀ seconds moment, (Value.int seconds).toMoment = .ok moment →
        moment.instant = DateTime.epochOrdinal * dayMicros + seconds * 1000000 ∧
          (Value.text moment.isoText).HasInstant moment.instant) ∧
      ∀ (operator : Operator) (candidate candidate' value value' value2 value2' : Value)
        (delimiter : Option String), candidate.WritesDate candidate' → value.WritesDate value' →
          value2.WritesDate value2' →
        (operator.applyTo .date ⟨value', value2', delimiter⟩ candidate').map Outcome.matched =
          (operator.applyTo .date ⟨value, value2, delimiter⟩ candidate).map Outcome.matched := by
  refine ⟨fun date => ?_, fun moment whole => ?_, fun seconds moment accepted => ?_, ?_⟩
  · have own : (Value.date date).HasInstant (date.ordinal * dayMicros : Nat) :=
      ⟨_, rfl, DateTime.instant_ofDate date⟩
    exact ⟨own, (Value.WritesDate.date date).hasInstant own⟩
  · have own : (Value.dateTime moment).HasInstant moment.instant := ⟨_, rfl, rfl⟩
    exact ⟨own, (Value.WritesDate.dateTime whole).hasInstant own⟩
  · have own : (Value.int seconds).HasInstant moment.instant := ⟨moment, accepted, rfl⟩
    exact ⟨(Value.instant_of_toMoment_int accepted).2,
      (Value.WritesDate.seconds accepted).hasInstant own⟩
  · intro operator candidate candidate' value value' value2 value2' delimiter writes first second
    exact Operator.matched_of_writesDate writes first second

/-- The last microsecond of a leap day, five and a half hours and some seconds west of Greenwich. -/
def lateLeapDay : DateTime :=
  { date := ⟨2024, 2, 29, by decide⟩
    time := ⟨86399999999, by decide⟩
    offset := some ⟨-19815000000, by decide⟩ }

/-- The leap day and the second before 1970 as texts; the one is before the other in either form. -/
theorem writtenDateLaws_lateLeapDay :
    lateLeapDay.isoText = "2024-02-29T23:59:59.999999-05:30:15" ∧
      (Value.text lateLeapDay.isoText).HasInstant lateLeapDay.instant ∧
      ∃ moment, (Value.int (-1)).toMoment = .ok moment ∧
        moment.isoText = "1969-12-31T23:59:59+00:00" ∧
        (Value.text moment.isoText).HasInstant moment.instant ∧
        (Operator.before.applyTo .date ⟨.text lateLeapDay.isoText, .null, none⟩
          (.text moment.isoText)).map Outcome.matched = .ok true := by
  have whole : lateLeapDay.hasWholeOffset = true := by decide
  have shown : (Value.int (-1)).toMoment.toOption.map DateTime.isoText =
      some "1969-12-31T23:59:59+00:00" := by
    decide +kernel
  have accepts : (Value.int (-1)).toMoment.isOk = true := by decide +kernel
  obtain ⟨moment, accepted⟩ := Except.exists_of_isOk accepts
  rw [accepted] at shown
  have written : moment.isoText = "1969-12-31T23:59:59+00:00" := Option.some.inj shown
  have earlier : (Operator.before.applyTo .date ⟨.dateTime lateLeapDay, .null, none⟩
      (.int (-1))).map Outcome.matched = .ok true := by
    rfl
  refine ⟨by decide +kernel, (writtenDateLaws.2.1 lateLeapDay whole).2, moment, accepted, written,
    (writtenDateLaws.2.2.1 (-1) moment accepted).2, ?_⟩
  rw [writtenDateLaws.2.2.2 .before (.int (-1)) _ (.dateTime lateLeapDay) _ .null .null none
    (.seconds accepted) (.dateTime whole) (.kept .null)]
  exact earlier

end Rulebook
