import Rulebook.Proofs.Condition.Distinguishing

/-!
# Conditions that stop

An operator that is applied to a value has an outcome, whatever the value and the operands are,
apart from three cases.  A timestamp of too many digits is out of the calendar, and the refusal
that should say so cannot show it.  A text that is taken for a pattern may cause a fault instead of
being refused.  And no text falls into parts at a delimiter without characters.
-/

namespace Rulebook

/-! ## Timestamps -/

theorem Date.ordinal_le_of_ofOrdinal? {ordinal : Nat} {date : Date}
    (found : ofOrdinal? ordinal = some date) : ordinal ≤ 3652425 := by
  rw [ofOrdinal?] at found
  split at found
  · cases found
  · simp only [ofParts?] at found
    split at found
    · rename_i valid
      have year : yearOfOrdinal ordinal ≤ 9999 := valid.1.2
      have cycles : 400 * ((ordinal - 1) / 146097) + 1 ≤ yearOfOrdinal ordinal := by
        simp only [yearOfOrdinal]
        omega
      omega
    · cases found

/-- The microseconds of a point in time within the calendar are of eighteen digits. -/
theorem DateTime.natAbs_lt_of_ofEpochMicros? {micros : Int} {moment : DateTime}
    (found : ofEpochMicros? micros = some moment) : micros.natAbs < Nat.pow 10 18 := by
  simp only [ofEpochMicros?] at found
  split at found
  · cases found
  · rename_i began
    obtain ⟨date, known, -⟩ := Option.map_eq_some_iff.mp found
    have days := Date.ordinal_le_of_ofOrdinal? known
    have limit : Nat.pow 10 18 = 1000000000000000000 := by decide
    rw [limit]
    simp only [epochOrdinal, dayMicros] at began days
    omega

theorem DateTime.ofEpochMicros?_eq_none {seconds : Int}
    (long : Numeral.isTooLong seconds = true) : ofEpochMicros? (seconds * 1000000) = none := by
  cases found : ofEpochMicros? (seconds * 1000000) with
  | none => rfl
  | some moment =>
      have bound := natAbs_lt_of_ofEpochMicros? found
      have smaller : seconds.natAbs ≤ (seconds * 1000000).natAbs := by omega
      have short := Numeral.isTooLong_eq_false (Nat.lt_of_le_of_lt smaller bound)
        (show 18 ≤ Numeral.digitLimit by decide)
      rw [long] at short
      cases short

/-! ## Reading -/

/-- Whether a value is refused with a reason that can be told. -/
def Refusal.IsIssue : Refusal → Prop
  | issue _ => True
  | fault _ => False

/-- Whether a reading comes to a value or to a refusal with a reason. -/
abbrev RefusesOnly {α : Type} (result : Coerced α) : Prop := StopsOnly Refusal.IsIssue result

theorem refusesOnly_refuse {α : Type} (issue : CoercionIssue) :
    RefusesOnly (refuse issue : Coerced α) :=
  StopsOnly.error_iff.mpr trivial

theorem ne_fault_of_refusesOnly {α : Type} {result : Coerced α} (refuses : RefusesOnly result)
    (fault : Fault) : result ≠ .error (.fault fault) :=
  fun stopped => refuses _ stopped

namespace Value

theorem refusesOnly_toText (value : Value) : RefusesOnly value.toText := by
  unfold toText
  split
  · exact .ok _
  · exact .ok _
  · exact .elim (refusesOnly_refuse _) .ok
  · split
    · exact .elim (refusesOnly_refuse _) .ok
    · exact .ok _
  · exact .ok _
  · exact .ok _
  · exact refusesOnly_refuse _

theorem refusesOnly_finite (number : Binary64) : RefusesOnly (finite number) := by
  rw [finite]
  split
  · exact .ok _
  · exact refusesOnly_refuse _

theorem refusesOnly_toNumber (value : Value) : RefusesOnly value.toNumber := by
  unfold toNumber
  split
  · exact .ok _
  · split
    · exact .ok _
    · exact refusesOnly_refuse _
  · exact refusesOnly_finite _
  · exact .elim (refusesOnly_refuse _) refusesOnly_finite
  · exact refusesOnly_refuse _

theorem refusesOnly_toBool (value : Value) : RefusesOnly value.toBool := by
  unfold toBool
  split
  · exact .ok _
  · exact .ok _
  · exact .ok _
  · dsimp only
    split
    · exact .ok _
    · split
      · exact .ok _
      · exact refusesOnly_refuse _
  · exact refusesOnly_refuse _

theorem refusesOnly_momentOfText (text : String) : RefusesOnly (momentOfText text) := by
  unfold momentOfText
  dsimp only
  split
  · exact refusesOnly_refuse _
  · exact .elim (refusesOnly_refuse _) .ok

/-- A number of seconds whose value can be shown is a point in time or is refused. -/
theorem refusesOnly_momentOfSeconds {value : Value} {shown : String}
    (literal : value.literal = .ok shown) (micros : Option Int) :
    RefusesOnly (momentOfSeconds micros value) := by
  unfold momentOfSeconds
  rw [literal]
  split
  · exact .ok _
  · exact refusesOnly_refuse _
  · rename_i impossible
    cases impossible

theorem literal_int (number : Int) :
    (int number).literal = if Numeral.isTooLong number then .error .integerTooLong
      else .ok (Numeral.integerText number) := by
  rw [literal, literal?, Numeral.integerText?]
  split <;> rfl

theorem momentOfSeconds_int_eq_fault_iff {seconds : Int} {fault : Fault} :
    momentOfSeconds (some (seconds * 1000000)) (.int seconds) = .error (.fault fault) ↔
      Numeral.isTooLong seconds = true ∧ fault = .integerTooLong := by
  cases long : Numeral.isTooLong seconds with
  | false =>
      have shown : (int seconds).literal = .ok (Numeral.integerText seconds) := by
        rw [literal_int, long]
        rfl
      exact iff_of_false (ne_fault_of_refusesOnly (refusesOnly_momentOfSeconds shown _) fault)
        (by simp)
  | true =>
      have unshown : (int seconds).literal = .error .integerTooLong := by
        rw [literal_int, long]
        rfl
      rw [momentOfSeconds, unshown, Option.bind_some, DateTime.ofEpochMicros?_eq_none long]
      simp [eq_comm]

theorem toMoment_eq_fault_iff {value : Value} {fault : Fault} :
    value.toMoment = .error (.fault fault) ↔
      (∃ seconds, value = .int seconds ∧ Numeral.isTooLong seconds = true) ∧
        fault = .integerTooLong := by
  have decided {result : Coerced DateTime} (refuses : RefusesOnly result) :
      DateTime.withOffset <$> result ≠ .error (.fault fault) :=
    ne_fault_of_refusesOnly (refuses.map _) fault
  cases value with
  | int seconds =>
      change Except.map _ _ = _ ↔ _
      rw [Except.map_eq_error, momentOfSeconds_int_eq_fault_iff]
      simp
  | text text => exact iff_of_false (decided (refusesOnly_momentOfText text)) (by simp)
  | float seconds =>
      exact iff_of_false (decided (refusesOnly_momentOfSeconds rfl _)) (by simp)
  | dateTime moment => exact iff_of_false (decided (.ok _)) (by simp)
  | date date => exact iff_of_false (decided (.ok _)) (by simp)
  | _ => exact iff_of_false (decided (refusesOnly_refuse _)) (by simp)

end Value

namespace ValueType

/-- A reading stops at an integer that is too long to be shown, where a date is asked for. -/
theorem read_eq_fault_iff {type : ValueType} {value : Value} {fault : Fault} :
    type.read value = .error (.fault fault) ↔
      type = .date ∧ (∃ number, value = .int number ∧ Numeral.isTooLong number = true) ∧
        fault = .integerTooLong := by
  have decided {α : Type} {result : Coerced α} (refuses : RefusesOnly result)
      (change : α → Subject) : change <$> result ≠ .error (.fault fault) :=
    ne_fault_of_refusesOnly (refuses.map change) fault
  cases type with
  | string => exact iff_of_false (decided value.refusesOnly_toText _) (by simp)
  | number => exact iff_of_false (decided value.refusesOnly_toNumber _) (by simp)
  | boolean => exact iff_of_false (decided value.refusesOnly_toBool _) (by simp)
  | unknown => exact iff_of_false (ne_fault_of_refusesOnly (refusesOnly_refuse _) fault) (by simp)
  | date =>
      change Except.map _ _ = _ ↔ _
      rw [Except.map_eq_error, Value.toMoment_eq_fault_iff]
      simp

theorem reads_iff {type : ValueType} {value : Value} :
    type.reads value = true ↔ ∃ subject, type.read value = .ok subject := by
  constructor
  · intro reads
    obtain ⟨subject, -, read⟩ := readOperand_of_reads reads ""
    exact ⟨subject, read⟩
  · rintro ⟨subject, read⟩
    have given : value.isNull = false := by
      cases value with
      | null => cases type <;> cases read
      | _ => rfl
    rw [reads, given, read]
    rfl

/-- Whether several values are read until one cannot be, and that one stops the reading. -/
def StopsAmong (type : ValueType) (values : List Value) (fault : Fault) : Prop :=
  ∃ value, values.find? (fun value => !type.reads value) = some value ∧
    type.read value = .error (.fault fault)

theorem not_stopsAmong_nil (type : ValueType) (fault : Fault) : ¬ type.StopsAmong [] fault := by
  rintro ⟨value, found, -⟩
  cases found

theorem stopsAmong_cons {type : ValueType} {value : Value} {values : List Value}
    {fault : Fault} :
    type.StopsAmong (value :: values) fault ↔
      type.read value = .error (.fault fault) ∨
        type.reads value = true ∧ type.StopsAmong values fault := by
  by_cases reads : type.reads value = true
  · obtain ⟨subject, read⟩ := reads_iff.mp reads
    simp [StopsAmong, reads, read]
  · simp [StopsAmong, reads]

theorem stopsAmong_singleton {type : ValueType} {value : Value} {fault : Fault} :
    type.StopsAmong [value] fault ↔ type.read value = .error (.fault fault) := by
  rw [stopsAmong_cons, or_iff_left fun later => not_stopsAmong_nil type fault later.2]

end ValueType

/-! ## Operands -/

theorem readOperand_eq_fault_iff {type : ValueType} {name : String} {operand : Value}
    {fault : Fault} :
    Operands.readOperand type name operand = .error (.fault fault) ↔
      type.read operand = .error (.fault fault) := by
  rw [Operands.readOperand]
  split
  · rename_i missing
    refine iff_of_false (ne_fault_of_refusesOnly (refusesOnly_refuse _) fault) fun stops => ?_
    obtain ⟨-, ⟨number, rfl, -⟩, -⟩ := ValueType.read_eq_fault_iff.mp stops
    cases missing
  · rfl

theorem readOperand_eq_ok_iff {type : ValueType} {operand : Value} (name : String) :
    (∃ subject, Operands.readOperand type name operand = .ok subject) ↔
      type.reads operand = true := by
  constructor
  · rintro ⟨subject, read⟩
    by_contra unread
    obtain ⟨refusal, refused⟩ := readOperand_of_not_reads (Bool.eq_false_iff.mpr unread) name
    rw [read] at refused
    cases refused
  · intro reads
    obtain ⟨subject, read, -⟩ := readOperand_of_reads reads name
    exact ⟨subject, read⟩

section Operands

variable {type : ValueType} {operands : Operands} {subject : Subject} {fault : Fault}

theorem checkRelation_eq_fault_iff {comparison : Comparison} :
    checkRelation type comparison operands subject = .error (.fault fault) ↔
      type.StopsAmong [operands.value] fault := by
  rw [checkRelation, Except.bind_eq_error, Operands.first, readOperand_eq_fault_iff,
    ValueType.stopsAmong_singleton]
  refine or_iff_left ?_
  rintro ⟨operand, -, impossible⟩
  cases impossible

theorem checkBetween_eq_fault_iff :
    checkBetween type operands subject = .error (.fault fault) ↔
      type.StopsAmong [operands.value, operands.value2] fault := by
  rw [checkBetween_eq, Except.map_eq_error, Operands.bounds, Except.bind_eq_error,
    Operands.first, readOperand_eq_fault_iff, ValueType.stopsAmong_cons,
    ValueType.stopsAmong_singleton, ← readOperand_eq_ok_iff "value"]
  refine or_congr_right ?_
  simp only [Except.bind_eq_error, Operands.second, readOperand_eq_fault_iff]
  constructor
  · rintro ⟨first, read, stops | ⟨second, -, impossible⟩⟩
    · exact ⟨⟨first, read⟩, stops⟩
    · cases impossible
  · rintro ⟨⟨first, read⟩, stops⟩
    exact ⟨first, read, .inl stops⟩

/-- The members of a list are told apart unless a text has to be divided at nothing. -/
theorem members_eq_error_iff :
    operands.members = .error fault ↔
      (∃ text, operands.value = .text text) ∧ operands.delimiter = some "" ∧
        fault = .emptySeparator := by
  obtain ⟨value, value2, delimiter⟩ := operands
  have undivided (text : String) : Operands.listed delimiter text = .error fault ↔
      delimiter = some "" ∧ fault = .emptySeparator := by
    cases delimiter with
    | none => simp [Operands.listed]
    | some delimiter =>
        by_cases given : delimiter = ""
        · simp [given, Operands.listed, Text.splitOn?, eq_comm]
        · simp [listed_of_given given, given]
  cases value with
  | text text =>
      change Except.map _ _ = _ ↔ _
      rw [Except.map_eq_error, undivided]
      simp
  | _ => simp [Operands.members]

/-- Among values that are read as another type than a date none stops the reading. -/
theorem readable_ne_error (other : type ≠ .date) (items : List Value) :
    readable type items ≠ .error fault := by
  induction items with
  | nil => simp [readable]
  | cons item items ih =>
      rw [readable]
      split
      · rw [ne_eq, Except.map_eq_error]
        exact ih
      · exact ih
      · rename_i cause stops
        exact (other (ValueType.read_eq_fault_iff.mp stops).1).elim

theorem isMember_eq_error_iff (other : type ≠ .date) (subject : Subject) :
    isMember type operands subject = .error fault ↔
      (∃ text, operands.value = .text text) ∧ operands.delimiter = some "" ∧
        fault = .emptySeparator := by
  rw [isMember_eq, Except.map_eq_error, Operands.subjects, Except.bind_eq_error,
    members_eq_error_iff]
  refine or_iff_left ?_
  rintro ⟨members, -, stops⟩
  exact readable_ne_error other members stops

end Operands

/-! ## Patterns -/

/-- The fault behind a failure to read a pattern; a defect is told in a reason and causes none. -/
def Pattern.Failure.fault? : Pattern.Failure → Option Fault
  | defect _ => none
  | repetitionTooLarge => some .repetitionTooLarge
  | numeralTooLong digits => some (.numeralTooLong digits)
  | codePointTooLarge => some .codePointTooLarge
  | twoAlphabets => some .twoAlphabets
  | lookBehindTooWide => some .lookBehindTooWide

/-- The fault that a text causes when it is taken for a pattern. -/
def Pattern.fault? (text : String) : Option Fault :=
  match ofChars text.toList with
  | .ok _ => none
  | .error failure => failure.fault?

theorem checkPattern_eq_error_iff {operand : Value} {text : String} {fault : Fault} :
    checkPattern operand (.text text) = .error fault ↔
      ∃ pattern, operand = .text pattern ∧ Pattern.fault? pattern = some fault := by
  cases operand with
  | text pattern =>
      have plain : Pattern.fault? "" = none := rfl
      by_cases empty : pattern = ""
      · simp [empty, checkPattern, plain]
      · simp only [checkPattern, Pattern.fault?, String.isEmpty_iff, empty, if_false,
          Value.text.injEq, exists_eq_left']
        cases Pattern.ofChars pattern.toList with
        | ok compiled => simp
        | error failure => cases failure <;> simp [Pattern.Failure.fault?]
  | _ => simp [checkPattern]

example : Pattern.fault? "x{4294967295}" = some .repetitionTooLarge := by cbv

/-! ## Operators -/

theorem outcome_eq_error_iff {result : Coerced Outcome} {fault : Fault} :
    result.outcome = .error fault ↔ result = .error (.fault fault) := by
  rcases result with (issue | cause) | outcome <;> simp [Coerced.outcome]

theorem ofExcept_eq_fault_iff {α : Type} {result : Except Fault α} {fault : Fault} :
    Coerced.ofExcept result = .error (.fault fault) ↔ result = .error fault := by
  cases result <;> simp [Coerced.ofExcept, Except.mapError]

namespace Operator

/-- The values that an operator reads as its type, in their order. -/
def readings (operator : Operator) (operands : Operands) (candidate : Value) : List Value :=
  match operator with
  | «exists» | notExists | empty | notEmpty => []
  | regex | isIn | notIn => [candidate]
  | between => [candidate, operands.value, operands.value2]
  | _ => [candidate, operands.value]

variable {operator : Operator} {type : ValueType} {operands : Operands} {candidate : Value}
  {fault : Fault}

variable (operator type operands candidate) in
/-- Whether the first value that an operator cannot read as a date is an integer that is too long
to be shown. -/
def MeetsLongInteger : Prop :=
  type = .date ∧ ∃ number, Numeral.isTooLong number = true ∧
    (operator.readings operands candidate).find? (fun value => !type.reads value) =
      some (.int number)

variable (operator type operands candidate fault) in
/-- Whether an operator tests a value with a text that causes a fault when it is taken for a
pattern. -/
def MeetsPattern : Prop :=
  operator = .regex ∧ type.reads candidate = true ∧
    ∃ pattern, operands.value = .text pattern ∧ Pattern.fault? pattern = some fault

variable (operator type operands candidate) in
/-- Whether an operator looks for a value among the parts of a text that is divided at nothing. -/
def DividesAtNothing : Prop :=
  (operator = .isIn ∨ operator = .notIn) ∧ type.reads candidate = true ∧
    (∃ text, operands.value = .text text) ∧ operands.delimiter = some ""

theorem stopsAmong_readings_iff :
    type.StopsAmong (operator.readings operands candidate) fault ↔
      operator.MeetsLongInteger type operands candidate ∧ fault = .integerTooLong := by
  constructor
  · rintro ⟨value, found, stops⟩
    obtain ⟨isDate, ⟨number, rfl, long⟩, same⟩ := ValueType.read_eq_fault_iff.mp stops
    exact ⟨⟨isDate, number, long, found⟩, same⟩
  · rintro ⟨⟨isDate, number, long, found⟩, same⟩
    exact ⟨.int number, found, ValueType.read_eq_fault_iff.mpr ⟨isDate, ⟨number, rfl, long⟩, same⟩⟩

/-- An operator that reads values stops at the value that it is applied to, or in its test. -/
theorem applyTo_eq_error_iff_test (legal : type.allows operator = true)
    (reading : operator.readsValue = true) :
    operator.applyTo type operands candidate = .error fault ↔
      type.read candidate = .error (.fault fault) ∨ ∃ subject,
        type.read candidate = .ok subject ∧
          operator.test type operands subject = .error (.fault fault) := by
  unfold applyTo
  rw [legal, if_neg (by decide)]
  split
  · cases reading
  · cases reading
  · cases reading
  · cases reading
  · split
    · rename_i missing
      have unread : ∃ issue, type.read candidate = refuse issue := by
        cases candidate with
        | absent => cases type <;> exact ⟨_, rfl⟩
        | null => cases type <;> exact ⟨_, rfl⟩
        | _ => cases missing
      obtain ⟨issue, unread⟩ := unread
      refine iff_of_false (by simp) ?_
      rw [unread]
      rintro (impossible | ⟨subject, impossible, -⟩) <;> cases impossible
    · rw [outcome_eq_error_iff, Except.bind_eq_error]

theorem applyTo_ne_error_of_not_readsValue (legal : type.allows operator = true)
    (reading : operator.readsValue = false) :
    operator.applyTo type operands candidate ≠ .error fault := by
  have blank (test : Bool → Outcome) :
      Coerced.outcome (isBlankValue candidate >>= fun blank => pure (test blank)) ≠
        .error fault := by
    rw [ne_eq, outcome_eq_error_iff]
    refine ne_fault_of_refusesOnly (.bind ?_ fun _ _ => .ok _) fault
    rw [isBlankValue]
    split
    · exact candidate.refusesOnly_toText.map _
    · exact .ok _
  have presence : operator = .exists ∨ operator = .notExists ∨ operator = .empty ∨
      operator = .notEmpty := by
    revert reading
    cases operator <;> simp [readsValue]
  unfold applyTo
  rw [legal, if_neg (by decide)]
  rcases presence with rfl | rfl | rfl | rfl
  · simp
  · simp
  · exact blank _
  · exact blank _

section Legal

variable (legal : type.allows operator = true)

include legal

theorem applyTo_comparing_eq_error_iff {comparison : Comparison}
    (asks : operator.comparison? = some comparison) :
    operator.applyTo type operands candidate = .error fault ↔
      type.StopsAmong [candidate, operands.value] fault := by
  rw [applyTo_eq_error_iff_test legal (readsValue_of_comparison asks), ValueType.stopsAmong_cons,
    ValueType.reads_iff]
  refine or_congr_right ?_
  simp only [test_of_comparison asks, checkRelation_eq_fault_iff, exists_and_right]

theorem applyTo_between_eq_error_iff (isBetween : operator = .between) :
    operator.applyTo type operands candidate = .error fault ↔
      type.StopsAmong [candidate, operands.value, operands.value2] fault := by
  subst isBetween
  rw [applyTo_eq_error_iff_test legal rfl, ValueType.stopsAmong_cons, ValueType.reads_iff]
  refine or_congr_right ?_
  simp only [test, checkBetween_eq_fault_iff, exists_and_right]

theorem applyTo_listing_eq_error_iff (isListing : operator = .isIn ∨ operator = .notIn) :
    operator.applyTo type operands candidate = .error fault ↔
      operator.DividesAtNothing type operands candidate ∧ fault = .emptySeparator := by
  have other : type ≠ .date := by
    rcases Condition.operators_of_list legal isListing with rfl | rfl <;> decide
  have decided : ¬ type.read candidate = .error (.fault fault) :=
    fun stops => other (ValueType.read_eq_fault_iff.mp stops).1
  have reading : operator.readsValue = true := by
    rcases isListing with rfl | rfl <;> rfl
  have tested (subject : Subject) :
      operator.test type operands subject = .error (.fault fault) ↔
        (∃ text, operands.value = .text text) ∧ operands.delimiter = some "" ∧
          fault = .emptySeparator := by
    rw [← isMember_eq_error_iff other subject, ← ofExcept_eq_fault_iff]
    rcases isListing with rfl | rfl <;>
    · rw [test, Except.bind_eq_error, or_iff_left]
      rintro ⟨member, -, impossible⟩
      cases impossible
  rw [applyTo_eq_error_iff_test legal reading, or_iff_right decided]
  simp only [tested, exists_and_right, ← ValueType.reads_iff, DividesAtNothing, isListing,
    true_and, and_assoc]

theorem applyTo_regex_eq_error_iff (isRegex : operator = .regex) :
    operator.applyTo type operands candidate = .error fault ↔
      operator.MeetsPattern type operands candidate fault := by
  subst isRegex
  obtain rfl : type = .string := by
    cases type <;> first | rfl | cases legal
  have decided : ¬ ValueType.string.read candidate = .error (.fault fault) :=
    fun stops => nomatch (ValueType.read_eq_fault_iff.mp stops).1
  have text {subject : Subject} (read : ValueType.string.read candidate = .ok subject) :
      ∃ text, subject = .text text := by
    obtain ⟨text, -, rfl⟩ := Except.map_eq_ok.mp read
    exact ⟨text, rfl⟩
  rw [applyTo_eq_error_iff_test legal rfl, or_iff_right decided, MeetsPattern,
    ValueType.reads_iff, and_iff_right rfl]
  simp only [test, ofExcept_eq_fault_iff]
  constructor
  · rintro ⟨subject, read, stops⟩
    obtain ⟨text, rfl⟩ := text read
    exact ⟨⟨_, read⟩, checkPattern_eq_error_iff.mp stops⟩
  · rintro ⟨⟨subject, read⟩, stops⟩
    obtain ⟨text, rfl⟩ := text read
    exact ⟨_, read, checkPattern_eq_error_iff.mpr stops⟩

/-- An operator of a type stops in three cases: at an integer of seconds that is too long to be
shown, at a text that causes a fault as a pattern, and at a list that is to be divided at
nothing. -/
theorem applyTo_eq_error_iff :
    operator.applyTo type operands candidate = .error fault ↔
      operator.MeetsLongInteger type operands candidate ∧ fault = .integerTooLong ∨
        operator.MeetsPattern type operands candidate fault ∨
          operator.DividesAtNothing type operands candidate ∧ fault = .emptySeparator := by
  have kinds : operator.readsValue = false ∨
      (∃ comparison, operator.comparison? = some comparison) ∨ operator = .between ∨
        (operator = .isIn ∨ operator = .notIn) ∨ operator = .regex := by
    cases operator <;> simp [readsValue, comparison?]
  rw [← stopsAmong_readings_iff]
  rcases kinds with unread | ⟨comparison, asks⟩ | isBetween | isListing | isRegex
  · refine iff_of_false (applyTo_ne_error_of_not_readsValue legal unread) ?_
    rintro (stops | ⟨rfl, -⟩ | ⟨⟨rfl | rfl, -⟩, -⟩)
    · have none : operator.readings operands candidate = [] := by
        cases operator <;> first | rfl | cases unread
      rw [none] at stops
      exact ValueType.not_stopsAmong_nil type fault stops
    · cases unread
    · cases unread
    · cases unread
  · have both : operator.readings operands candidate = [candidate, operands.value] := by
      cases operator <;> first | rfl | cases asks
    rw [applyTo_comparing_eq_error_iff legal asks, both, or_iff_left]
    rintro (⟨rfl, -⟩ | ⟨⟨rfl | rfl, -⟩, -⟩) <;> cases asks
  · rw [applyTo_between_eq_error_iff legal isBetween, isBetween, readings, or_iff_left]
    rintro (⟨impossible, -⟩ | ⟨⟨impossible | impossible, -⟩, -⟩) <;> cases impossible
  · have notDate : ¬ type.StopsAmong (operator.readings operands candidate) fault := by
      rw [stopsAmong_readings_iff]
      rintro ⟨⟨rfl, -⟩, -⟩
      rcases Condition.operators_of_list legal isListing with impossible | impossible <;>
        cases impossible
    have noPattern : ¬ operator.MeetsPattern type operands candidate fault := by
      rintro ⟨rfl, -⟩
      rcases isListing with impossible | impossible <;> cases impossible
    rw [applyTo_listing_eq_error_iff legal isListing, or_iff_right notDate,
      or_iff_right noPattern]
  · have notDate : ¬ type.StopsAmong (operator.readings operands candidate) fault := by
      rw [stopsAmong_readings_iff]
      rintro ⟨⟨rfl, -⟩, -⟩
      subst isRegex
      cases legal
    have noList : ¬ (operator.DividesAtNothing type operands candidate ∧
        fault = .emptySeparator) := by
      rintro ⟨⟨impossible, -⟩, -⟩
      subst isRegex
      rcases impossible with impossible | impossible <;> cases impossible
    rw [applyTo_regex_eq_error_iff legal isRegex, or_iff_right notDate, or_iff_left noList]

end Legal

/-- With a delimiter that is not empty, an operator of a type has an outcome for every value apart
from two cases: dates are asked for and an integer is met that is too long to be shown, or a text
causes a fault as a pattern. -/
theorem exists_outcome_iff (operator : Operator) (type : ValueType) (operands : Operands)
    (candidate : Value) (legal : type.allows operator = true)
    (given : operands.delimiter ≠ some "") :
    ((∃ outcome, operator.applyTo type operands candidate = .ok outcome) ↔
        ¬ operator.MeetsLongInteger type operands candidate ∧
          ∀ fault, ¬ operator.MeetsPattern type operands candidate fault) ∧
      ∀ fault, operator.applyTo type operands candidate = .error fault ↔
        operator.MeetsLongInteger type operands candidate ∧ fault = .integerTooLong ∨
          operator.MeetsPattern type operands candidate fault := by
  have stops (fault : Fault) : operator.applyTo type operands candidate = .error fault ↔
      operator.MeetsLongInteger type operands candidate ∧ fault = .integerTooLong ∨
        operator.MeetsPattern type operands candidate fault := by
    rw [applyTo_eq_error_iff legal]
    refine or_congr_right (or_iff_left ?_)
    rintro ⟨⟨-, -, -, nothing⟩, -⟩
    exact given nothing
  refine ⟨?_, stops⟩
  cases applied : operator.applyTo type operands candidate with
  | ok outcome =>
      refine iff_of_true ⟨outcome, rfl⟩ ⟨fun long => ?_, fun fault pattern => ?_⟩
      · rw [(stops .integerTooLong).mpr (.inl ⟨long, rfl⟩)] at applied
        cases applied
      · rw [(stops fault).mpr (.inr pattern)] at applied
        cases applied
  | error fault =>
      refine iff_of_false (by simp) fun ⟨short, usable⟩ => ?_
      rcases (stops fault).mp applied with ⟨long, -⟩ | pattern
      · exact short long
      · exact usable fault pattern

/-- A timestamp is compared with the start of 1970. -/
theorem exists_outcome_before_epoch :
    ∃ outcome, Operator.before.applyTo .date ⟨.int 0, .null, some ","⟩ (.int 1700000000) =
      .ok outcome := by
  refine (exists_outcome_iff .before .date ⟨.int 0, .null, some ","⟩ (.int 1700000000) rfl
    (by decide)).1.mpr ⟨?_, ?_⟩
  · rintro ⟨-, number, -, found⟩
    cases found
  · rintro fault ⟨impossible, -⟩
    cases impossible

/-- An integer of too many digits is no timestamp, and the outcome that should say so cannot show
it. -/
theorem not_forall_exists_outcome :
    ¬ ∀ (operator : Operator) (type : ValueType) (operands : Operands) (candidate : Value),
      type.allows operator = true → operands.delimiter ≠ some "" →
        ∃ outcome, operator.applyTo type operands candidate = .ok outcome := by
  intro law
  let number : Int := (Nat.pow 10 Numeral.digitLimit : Nat)
  have long : Numeral.isTooLong number = true := by
    rw [Numeral.isTooLong, Int.natAbs_natCast]
    exact decide_eq_true (Nat.le_refl _)
  have unread : ValueType.date.read (.int number) = .error (.fault .integerTooLong) :=
    ValueType.read_eq_fault_iff.mpr ⟨rfl, ⟨number, rfl, long⟩, rfl⟩
  obtain ⟨outcome, applied⟩ :=
    law .eq .date ⟨.text "2024-01-01", .null, some ","⟩ (.int number) rfl (by decide)
  have stops : Operator.eq.applyTo .date ⟨.text "2024-01-01", .null, some ","⟩ (.int number) =
      .error .integerTooLong :=
    (applyTo_comparing_eq_error_iff rfl rfl).mpr (ValueType.stopsAmong_cons.mpr (.inl unread))
  rw [applied] at stops
  cases stops

end Operator

end Rulebook
