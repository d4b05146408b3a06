import Rulebook.Proofs.Condition.Distinguishing

/-!
# Lost offsets

An offset of less than a second is not in the text of a point in time that is read back: the instant
is another one, and the text is shorter.  A comparison with such an operand is found out by one of
the two instants between which they lie, a range by a point in time that is far from both bounds.
-/

namespace Rulebook

namespace DateTime

/-- What becomes of an operand when it is written and read back. -/
def reread (moment : DateTime) : DateTime := moment.readBack.withOffset

theorem exists_offset_of_not_whole {moment : DateTime} (lost : moment.hasWholeOffset = false) :
    ∃ offset, moment.offset = some offset ∧ offset.micros ≠ 0 ∧
      offset.micros.natAbs < 1000000 := by
  obtain ⟨date, time, offset⟩ := moment
  cases offset with
  | none => cases lost
  | some offset =>
      simp only [hasWholeOffset, Option.all_some, Bool.or_eq_false_iff, decide_eq_false_iff_not,
        Nat.not_le] at lost
      exact ⟨offset, rfl, lost⟩

theorem readBack_of_offset {moment : DateTime} {offset : UtcOffset}
    (given : moment.offset = some offset) (short : offset.micros.natAbs < 1000000) :
    moment.readBack = { moment with offset := some .utc } := by
  rw [readBack, given, Option.map_some, UtcOffset.readBack, if_pos short]

/-- The clock reading of a moment, counted as its instant is. -/
def clock (moment : DateTime) : Int :=
  (moment.date.ordinal * dayMicros + moment.time.micros : Nat)

theorem instant_of_offset {moment : DateTime} {offset : UtcOffset}
    (given : moment.offset = some offset) : moment.instant = moment.clock - offset.micros := by
  rw [instant, given]
  rfl

theorem instant_at (moment : DateTime) (offset : UtcOffset) :
    instant { moment with offset := some offset } = moment.clock - offset.micros := rfl

theorem instant_withOffset (moment : DateTime) : moment.withOffset.instant = moment.instant := rfl

theorem instant_reread_of_offset {moment : DateTime} {offset : UtcOffset}
    (given : moment.offset = some offset) (short : offset.micros.natAbs < 1000000) :
    moment.reread.instant = moment.clock := by
  rw [reread, instant_withOffset, readBack_of_offset given short, instant]
  exact Int.sub_zero _

theorem instant_ne_of_not_whole {moment : DateTime} (lost : moment.hasWholeOffset = false) :
    moment.reread.instant ≠ moment.withOffset.instant := by
  obtain ⟨offset, given, nonzero, short⟩ := exists_offset_of_not_whole lost
  rw [instant_reread_of_offset given short, instant_withOffset, instant_of_offset given]
  omega

/-- Writing and reading back moves an instant by less than a second. -/
theorem instant_reread_near (moment : DateTime) :
    (moment.reread.instant - moment.withOffset.instant).natAbs < 1000000 := by
  by_cases whole : moment.hasWholeOffset = true
  · rw [reread, readBack_withOffset whole, Int.sub_self]
    decide
  · obtain ⟨offset, given, -, short⟩ := exists_offset_of_not_whole (Bool.eq_false_iff.mpr whole)
    rw [instant_reread_of_offset given short, instant_withOffset, instant_of_offset given]
    omega

theorem length_isoText (moment : DateTime) :
    moment.withOffset.isoText.toList.length = moment.date.isoChars.length +
      (1 + moment.time.isoChars.length) + (moment.offset.getD .utc).isoChars.length := by
  rw [isoText, String.toList_ofList, isoCharsWith, withOffset]
  simp only [List.length_append, List.length_cons]
  omega

theorem length_isoText_reread_lt {moment : DateTime} (lost : moment.hasWholeOffset = false) :
    moment.reread.isoText.toList.length < moment.withOffset.isoText.toList.length := by
  obtain ⟨offset, given, nonzero, short⟩ := exists_offset_of_not_whole lost
  have fraction : offset.micros.natAbs % 1000000 ≠ 0 := by omega
  rw [reread, readBack_of_offset given short, length_isoText, length_isoText, given]
  have utc : UtcOffset.utc.isoChars.length = 6 := by decide
  have long : 6 < offset.isoChars.length := by
    rw [UtcOffset.isoChars]
    simp only [fraction, and_false, if_false, List.length_append, List.length_cons,
      length_paddedDigits]
    omega
  dsimp only [Option.getD_some]
  omega

theorem length_isoText_reread_le (moment : DateTime) :
    moment.reread.isoText.toList.length ≤ moment.withOffset.isoText.toList.length := by
  by_cases whole : moment.hasWholeOffset = true
  · have same : moment.reread = moment.withOffset := readBack_withOffset whole
    exact Nat.le_of_eq (congrArg (fun read => read.isoText.toList.length) same)
  · exact Nat.le_of_lt (length_isoText_reread_lt (Bool.eq_false_iff.mpr whole))

end DateTime

/-! ## Relations -/

/-- Of two instants, one is in a relation to only one of the two. -/
theorem exists_holds_ne {operator : Operator} {comparison : Comparison}
    (asks : operator.comparison? = some comparison)
    (legal : ValueType.date.allows operator = true) {left right : DateTime}
    (different : right.instant ≠ left.instant) :
    ∃ candidate, (candidate = left ∨ candidate = right) ∧
      comparison.holds (.moment candidate) (.moment right) ≠
        comparison.holds (.moment candidate) (.moment left) := by
  cases operator <;> cases legal <;> cases asks
  case eq | neq =>
    refine ⟨left, .inl rfl, ?_⟩
    simp [Comparison.holds, Subject.same, Ne.symm different]
  case before =>
    rcases Int.lt_or_gt_of_ne different with earlier | later
    · refine ⟨right, .inr rfl, ?_⟩
      simp [Comparison.holds, Subject.less, earlier]
    · refine ⟨left, .inl rfl, ?_⟩
      simp [Comparison.holds, Subject.less, later]
  case after =>
    rcases Int.lt_or_gt_of_ne different with earlier | later
    · refine ⟨left, .inl rfl, ?_⟩
      simp [Comparison.holds, Subject.less, earlier]
    · refine ⟨right, .inr rfl, ?_⟩
      simp [Comparison.holds, Subject.less, later]

theorem outcome_checkRelation {type : ValueType} {operands : Operands} {operand : Subject}
    (first : operands.first type = .ok operand) (comparison : Comparison) (subject : Subject) :
    (checkRelation type comparison operands subject).outcome =
      .ok (.ofTest (comparison.holds subject operand) (.unrelated subject comparison operand)) := by
  rw [checkRelation, first]
  rfl

theorem first_portable_dateTime (moment : DateTime) (second : Value) (delimiter : Option String) :
    Operands.first ⟨(Value.dateTime moment).portable, second, delimiter⟩ .date =
      .ok (.moment moment.reread) :=
  readOperand_portable_dateTime moment "value"

theorem date_tellsApart {operator : Operator} {comparison : Comparison} {moment : DateTime}
    (asks : operator.comparison? = some comparison)
    (legal : ValueType.date.allows operator = true) (lost : moment.hasWholeOffset = false)
    (first second : Value) (delimiter : Option String) :
    operator.TellsApart .date ⟨.dateTime moment, first, delimiter⟩
      ⟨(Value.dateTime moment).portable, second, delimiter⟩ := by
  obtain ⟨candidate, isBound, differs⟩ :=
    exists_holds_ne asks legal (DateTime.instant_ne_of_not_whole lost)
  have read : ValueType.date.read (.dateTime candidate) = .ok (.moment candidate) := by
    rcases isBound with rfl | rfl <;> rfl
  refine Operator.tellsApart_of_test (.dateTime candidate) (.moment candidate)
    (.ofTest (comparison.holds (.moment candidate) (.moment moment.withOffset))
      (.unrelated (.moment candidate) comparison (.moment moment.withOffset)))
    legal (readsValue_of_comparison asks) rfl read ?_ ?_
  · rw [Operator.test_of_comparison asks]
    have own : Operands.first ⟨.dateTime moment, first, delimiter⟩ .date =
        .ok (.moment moment.withOffset) := readOperand_dateTime moment "value"
    exact outcome_checkRelation own comparison _
  · intro other tested
    rw [Operator.test_of_comparison asks,
      outcome_checkRelation (first_portable_dateTime moment second delimiter)] at tested
    rw [← Except.ok.inj tested]
    exact shown_ofTest_ne differs _ _

/-! ## Ranges -/

/-- Some point in time is more than a second before, or more than a second after, both a given one
with a short offset and a given instant. -/
theorem exists_outside {moment : DateTime} (lost : moment.hasWholeOffset = false) (bound : Int) :
    ∃ candidate : DateTime, candidate.withOffset = candidate ∧
      ((candidate.instant + 1000000 < moment.withOffset.instant ∧
          candidate.instant + 1000000 < bound) ∨
        (moment.withOffset.instant + 1000000 < candidate.instant ∧
          bound + 1000000 < candidate.instant)) := by
  obtain ⟨offset, given, -, short⟩ := DateTime.exists_offset_of_not_whole lost
  rw [DateTime.instant_withOffset, DateTime.instant_of_offset given]
  have east : -(dayMicros : Int) < 86399999999 ∧ (86399999999 : Int) < dayMicros := by decide
  have west : -(dayMicros : Int) < -86399999999 ∧ (-86399999999 : Int) < dayMicros := by decide
  have before : DateTime.instant { moment with offset := some ⟨86399999999, east⟩ } =
      moment.clock - 86399999999 := DateTime.instant_at moment ⟨86399999999, east⟩
  have after : DateTime.instant { moment with offset := some ⟨-86399999999, west⟩ } =
      moment.clock - -86399999999 := DateTime.instant_at moment ⟨-86399999999, west⟩
  by_cases late : moment.clock ≤ bound
  · refine ⟨{ moment with offset := some ⟨86399999999, east⟩ }, rfl, .inl ?_⟩
    rw [before]
    omega
  · refine ⟨{ moment with offset := some ⟨-86399999999, west⟩ }, rfl, .inr ?_⟩
    rw [after]
    omega

/-- Both bounds are named when a point in time is before both of them or after both. -/
theorem outcome_checkBetween_outside {operands : Operands} {candidate first second : DateTime}
    (bounds : operands.bounds .date = .ok (.moment first, .moment second))
    (outside : (candidate.instant < first.instant ∧ candidate.instant < second.instant) ∨
      (first.instant < candidate.instant ∧ second.instant < candidate.instant)) :
    ∃ low high : DateTime,
      (checkBetween .date operands (.moment candidate)).outcome =
        .ok (.fails (.outside (.moment candidate) (.moment low) (.moment high))) ∧
      low.isoText.toList.length + high.isoText.toList.length =
        first.isoText.toList.length + second.isoText.toList.length := by
  rw [checkBetween_eq, bounds]
  by_cases swapped : second.instant < first.instant
  · refine ⟨second, first, ?_, Nat.add_comm _ _⟩
    have test : (!(Subject.moment candidate).less (.moment second) &&
        !(Subject.moment first).less (.moment candidate)) = false := by
      rcases outside with ⟨-, before⟩ | ⟨after, -⟩
      · simp [Subject.less, before]
      · simp [Subject.less, after]
    have order : (Subject.moment second).less (.moment first) = true := decide_eq_true swapped
    simp only [Except.map, order, if_true, test, Outcome.ofTest]
    rfl
  · refine ⟨first, second, ?_, rfl⟩
    have test : (!(Subject.moment candidate).less (.moment first) &&
        !(Subject.moment second).less (.moment candidate)) = false := by
      rcases outside with ⟨before, -⟩ | ⟨-, after⟩
      · simp [Subject.less, before]
      · simp [Subject.less, after]
    have order : (Subject.moment second).less (.moment first) = false :=
      decide_eq_false swapped
    simp only [Except.map, order, Bool.false_eq_true, if_false, test, Outcome.ofTest]
    rfl

theorem append_ne_of_length {start between between2 low high low2 high2 : String}
    (lengths : low.toList.length + high.toList.length ≠
      low2.toList.length + high2.toList.length) :
    start ++ between ++ low ++ between2 ++ high ≠
      start ++ between ++ low2 ++ between2 ++ high2 := by
  intro same
  have widths := congrArg (fun text : String => text.toList.length) same
  simp only [String.toList_append, List.length_append] at widths
  omega

theorem message_outside_ne {candidate low high low2 high2 : DateTime}
    (lengths : low.isoText.toList.length + high.isoText.toList.length ≠
      low2.isoText.toList.length + high2.isoText.toList.length) :
    (Reason.outside (.moment candidate) (.moment low) (.moment high)).message ≠
      (Reason.outside (.moment candidate) (.moment low2) (.moment high2)).message :=
  append_ne_of_length lengths

/-- How far two readings of a bound are apart: by less than a second, and the second one has no
longer text. -/
structure DateTime.IsNear (own written : DateTime) : Prop where
  instant : (written.instant - own.instant).natAbs < 1000000
  length : written.isoText.toList.length ≤ own.isoText.toList.length

/-- A bound is read alike in both forms, or it has lost its offset. -/
theorem exists_bounds {operand : Value} (reads : ValueType.date.reads operand = true)
    (name : String) :
    ∃ own written : DateTime,
      Operands.readOperand .date name operand = .ok (.moment own) ∧
      Operands.readOperand .date name operand.portable = .ok (.moment written) ∧
      own.IsNear written := by
  by_cases kept : operand.rereadsAs .date = true
  · obtain ⟨subject, read, asDate⟩ := readOperand_of_reads reads name
    obtain ⟨own, -, rfl⟩ := Except.map_eq_ok.mp asDate
    refine ⟨own, own, read, ?_, ?_, Nat.le_refl _⟩
    · rw [readOperand_portable kept, read]
    · rw [Int.sub_self]
      decide
  · obtain ⟨moment, rfl, lost⟩ := exists_dateTime_of_not_rereads kept
    exact ⟨moment.withOffset, moment.reread, readOperand_dateTime moment name,
      readOperand_portable_dateTime moment name, moment.instant_reread_near,
      moment.length_isoText_reread_le⟩

theorem bounds_of_operands {type : ValueType} {operands : Operands} {first second : Subject}
    (isFirst : operands.first type = .ok first) (isSecond : operands.second type = .ok second) :
    operands.bounds type = .ok (first, second) := by
  rw [Operands.bounds, isFirst, isSecond]
  rfl

/-- A value outside both ranges tells the bounds of one from shorter bounds of the other. -/
theorem tellsApart_of_outside {left right : Operands}
    {candidate first second written written2 : DateTime} (own : candidate.withOffset = candidate)
    (leftBounds : left.bounds .date = .ok (.moment first, .moment second))
    (rightBounds : right.bounds .date = .ok (.moment written, .moment written2))
    (outside : (candidate.instant + 1000000 < first.instant ∧
        candidate.instant + 1000000 < second.instant) ∨
      (first.instant + 1000000 < candidate.instant ∧ second.instant + 1000000 < candidate.instant))
    (near : first.IsNear written) (near2 : second.IsNear written2)
    (shorter : written.isoText.toList.length + written2.isoText.toList.length <
      first.isoText.toList.length + second.isoText.toList.length) :
    Operator.between.TellsApart .date left right := by
  have read : ValueType.date.read (.dateTime candidate) = .ok (.moment candidate) := by
    conv_rhs => rw [← own]
    rfl
  have moved := near.instant
  have moved2 := near2.instant
  have outsideLeft : (candidate.instant < first.instant ∧ candidate.instant < second.instant) ∨
      (first.instant < candidate.instant ∧ second.instant < candidate.instant) := by
    omega
  have outsideRight :
      (candidate.instant < written.instant ∧ candidate.instant < written2.instant) ∨
        (written.instant < candidate.instant ∧ written2.instant < candidate.instant) := by
    omega
  obtain ⟨low, high, here, lengths⟩ := outcome_checkBetween_outside leftBounds outsideLeft
  obtain ⟨low2, high2, there, lengths2⟩ := outcome_checkBetween_outside rightBounds outsideRight
  refine Operator.tellsApart_of_test (.dateTime candidate) (.moment candidate)
    (.fails (.outside (.moment candidate) (.moment low) (.moment high))) rfl rfl rfl read here ?_
  intro other tested
  rw [Operator.test, there] at tested
  rw [← Except.ok.inj tested]
  exact shown_ne_of_message (message_outside_ne (by omega))

theorem between_date_tellsApart {value value2 : Value}
    (reads : ValueType.date.reads value = true) (reads2 : ValueType.date.reads value2 = true)
    (lost : ¬value.rereadsAs .date = true ∨ ¬value2.rereadsAs .date = true)
    (delimiter : Option String) :
    Operator.between.TellsApart .date ⟨value, value2, delimiter⟩
      ⟨value.portable, value2.portable, delimiter⟩ := by
  rcases lost with changed | changed
  · obtain ⟨moment, rfl, lost⟩ := exists_dateTime_of_not_rereads changed
    obtain ⟨second, written2, isSecond, isWritten2, near2⟩ := exists_bounds reads2 "value2"
    obtain ⟨candidate, own, outside⟩ := exists_outside lost second.instant
    have shorter := DateTime.length_isoText_reread_lt lost
    refine tellsApart_of_outside own
      (bounds_of_operands (readOperand_dateTime moment "value") isSecond)
      (bounds_of_operands (readOperand_portable_dateTime moment "value") isWritten2) outside
      ⟨moment.instant_reread_near, moment.length_isoText_reread_le⟩ near2 ?_
    exact Nat.add_lt_add_of_lt_of_le shorter near2.length
  · obtain ⟨moment, rfl, lost⟩ := exists_dateTime_of_not_rereads changed
    obtain ⟨first, written, isFirst, isWritten, near⟩ := exists_bounds reads "value"
    obtain ⟨candidate, own, outside⟩ := exists_outside lost first.instant
    have shorter := DateTime.length_isoText_reread_lt lost
    refine tellsApart_of_outside own
      (bounds_of_operands isFirst (readOperand_dateTime moment "value2"))
      (bounds_of_operands isWritten (readOperand_portable_dateTime moment "value2"))
      (outside.imp And.symm And.symm) near
      ⟨moment.instant_reread_near, moment.length_isoText_reread_le⟩ ?_
    exact Nat.add_lt_add_of_le_of_lt near.length shorter

end Rulebook
