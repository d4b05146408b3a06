import Mathlib.Algebra.Order.Ring.Unbundled.Rat
import Rulebook.Proofs.Condition.Stopping

/-!
# Order of numbers and points in time

Values that are read as numbers, or as points in time, have a rank: the exact value of the number,
or the instant.  The comparing operators compare the ranks, in whatever form the values are given,
and a value that cannot be read is in no relation at all.
-/

namespace Rulebook

/-! ## Answers -/

namespace Operator

/-- Whether an operator answers with a result. -/
def Answers (operator : Operator) (type : ValueType) (operands : Operands) (candidate : Value)
    (result : Bool) : Prop :=
  ∃ outcome, operator.applyTo type operands candidate = .ok outcome ∧ outcome.matched = result

/-- Whether an operator answers a value and its operand with a result, whatever the second operand
and the delimiter are. -/
def Relates (operator : Operator) (type : ValueType) (candidate operand : Value)
    (result : Bool) : Prop :=
  ∀ second delimiter, operator.Answers type ⟨operand, second, delimiter⟩ candidate result

variable {operator : Operator} {type : ValueType} {operands : Operands}
  {candidate operand : Value} {result : Bool}

theorem Answers.unique {other : Bool} (here : operator.Answers type operands candidate result)
    (there : operator.Answers type operands candidate other) : result = other := by
  obtain ⟨outcome, applied, rfl⟩ := here
  obtain ⟨again, same, rfl⟩ := there
  rw [Except.ok.inj (applied.symm.trans same)]

theorem Relates.iff {other : Bool} (here : operator.Relates type candidate operand result) :
    operator.Relates type candidate operand other ↔ result = other :=
  ⟨fun there => (here .null none).unique (there .null none), fun same => same ▸ here⟩

@[simp]
theorem matched_ofTest (test : Bool) (reason : Reason) :
    (Outcome.ofTest test reason).matched = test := by
  cases test <;> rfl

theorem answers_of_not_allows (undefined : type.allows operator = false) :
    operator.Answers type operands candidate false := by
  unfold Answers applyTo
  rw [undefined, if_pos (by decide)]
  exact ⟨_, rfl, rfl⟩

/-- An operator that reads values tests a value that is there once it has been read. -/
theorem applyTo_of_readsValue (legal : type.allows operator = true)
    (reading : operator.readsValue = true) :
    operator.applyTo type operands candidate =
      if !candidate.isPresent then .ok (.fails (missingReason candidate))
      else (type.read candidate >>= operator.test type operands).outcome := by
  unfold applyTo
  rw [legal, if_neg (by decide)]
  split
  · cases reading
  · cases reading
  · cases reading
  · cases reading
  · rfl

/-- An operator that reads values fails where the value is refused. -/
theorem answers_of_refused {issue : CoercionIssue} (legal : type.allows operator = true)
    (reading : operator.readsValue = true) (refused : type.read candidate = refuse issue) :
    operator.Answers type operands candidate false := by
  rw [Answers, applyTo_of_readsValue legal reading, refused]
  split <;> exact ⟨_, rfl, rfl⟩

theorem isPresent_of_read {subject : Subject} (read : type.read candidate = .ok subject) :
    candidate.isPresent = true := by
  cases candidate with
  | absent | null => cases type <;> cases read
  | _ => rfl

/-- An operator that reads values tests the value that is read. -/
theorem answers_iff_of_read {subject : Subject} (legal : type.allows operator = true)
    (reading : operator.readsValue = true) (read : type.read candidate = .ok subject) :
    operator.Answers type operands candidate result ↔
      ∃ outcome, (operator.test type operands subject).outcome = .ok outcome ∧
        outcome.matched = result := by
  rw [Answers, applyTo_of_read legal reading (isPresent_of_read read) read]

end Operator

theorem readOperand_of_read {type : ValueType} {operand : Value} {subject : Subject}
    (read : type.read operand = .ok subject) (name : String) :
    Operands.readOperand type name operand = .ok subject := by
  obtain ⟨again, found, same⟩ := readOperand_of_reads (ValueType.reads_iff.mpr ⟨subject, read⟩) name
  rw [found, ← same, read]

theorem exists_refuse_of_not_reads {type : ValueType} {value : Value}
    (refuses : RefusesOnly (type.read value)) (unread : type.reads value = false) :
    ∃ issue, type.read value = refuse issue := by
  cases read : type.read value with
  | error refusal =>
      cases refusal with
      | issue issue => exact ⟨issue, rfl⟩
      | fault fault => exact (refuses _ read).elim
  | ok subject =>
      rw [ValueType.reads_iff.mpr ⟨subject, read⟩] at unread
      cases unread

namespace Operator

variable {operator : Operator} {comparison : Comparison} {type : ValueType}
  {candidate operand : Value}

/-- A comparing operator compares what is read. -/
theorem relates_of_read {subject other : Subject} (asks : operator.comparison? = some comparison)
    (legal : type.allows operator = true) (read : type.read candidate = .ok subject)
    (readOther : type.read operand = .ok other) :
    operator.Relates type candidate operand (comparison.holds subject other) := by
  intro second delimiter
  rw [answers_iff_of_read legal (readsValue_of_comparison asks) read, test_of_comparison asks,
    checkRelation, Operands.first, readOperand_of_read readOther]
  exact ⟨_, rfl, matched_ofTest _ _⟩

/-- A value or an operand that cannot be read is in no relation. -/
theorem relates_of_not_reads (asks : operator.comparison? = some comparison)
    (refuses : RefusesOnly (type.read candidate)) (refusesOther : RefusesOnly (type.read operand))
    (unread : type.reads candidate = false ∨ type.reads operand = false) :
    operator.Relates type candidate operand false := by
  intro second delimiter
  have reading := readsValue_of_comparison asks
  cases legal : type.allows operator with
  | false => exact answers_of_not_allows legal
  | true =>
      cases read : type.reads candidate with
      | false =>
          obtain ⟨issue, refused⟩ := exists_refuse_of_not_reads refuses read
          exact answers_of_refused legal reading refused
      | true =>
          obtain ⟨subject, read⟩ := ValueType.reads_iff.mp read
          have unread : type.reads operand = false := by
            refine unread.resolve_left fun unread => ?_
            rw [ValueType.reads_iff.mpr ⟨subject, read⟩] at unread
            cases unread
          obtain ⟨issue, refused⟩ := exists_refuse_of_not_reads refusesOther unread
          rw [answers_iff_of_read legal reading read, test_of_comparison asks, checkRelation,
            Operands.first, Operands.readOperand]
          split
          · exact ⟨_, rfl, rfl⟩
          · rw [refused]
            exact ⟨_, rfl, rfl⟩

end Operator

/-! ## Ranks -/

namespace Subject

/-- Where a number or a point in time stands among the others. -/
def rank : Subject → Rat
  | number value => value.toRat
  | moment value => value.instant
  | text _ | bool _ => 0

/-- Whether a subject is a finite number or a point in time, as its type says. -/
inductive IsRanked : ValueType → Subject → Prop where
  | integer (value : Int) : IsRanked .number (number (.integer value))
  | real {value : Binary64} (finite : value.isFinite = true) :
      IsRanked .number (number (.real value))
  | moment (value : DateTime) : IsRanked .date (moment value)

variable {type : ValueType} {left right : Subject}

theorem IsRanked.less_eq (first : IsRanked type left) (second : IsRanked type right) :
    left.less right = decide (left.rank < right.rank) := by
  cases first with
  | integer | real => cases second <;> rfl
  | moment =>
      cases second
      exact decide_eq_decide.mpr Rat.intCast_lt_intCast.symm

theorem IsRanked.same_eq (first : IsRanked type left) (second : IsRanked type right) :
    left.same right = decide (left.rank = right.rank) := by
  rw [Bool.eq_iff_iff, decide_eq_true_iff]
  cases first with
  | integer =>
      cases second with
      | integer => simp [same, Number.sameValue, rank, Number.toRat]
      | real finite => simp [same, Number.sameValue, rank, Number.toRat, finite]
  | @real left finite =>
      cases second with
      | integer => simp [same, Number.sameValue, rank, Number.toRat, finite]
      | @real right other =>
          cases left <;> cases finite
          cases right <;> cases other
          exact beq_iff_eq
  | moment =>
      cases second
      simp [same, rank]

end Subject

namespace Value

theorem isRanked_of_finite {value : Binary64} {number : Number}
    (read : finite value = .ok number) : Subject.IsRanked .number (.number number) := by
  rw [finite] at read
  split at read
  · rename_i isFinite
    cases read
    exact .real isFinite
  · cases read

theorem isRanked_of_toNumber {value : Value} {number : Number}
    (read : value.toNumber = .ok number) : Subject.IsRanked .number (.number number) := by
  cases value with
  | bool value =>
      cases read
      exact .integer _
  | int value =>
      rw [toNumber] at read
      split at read
      · cases read
        exact .integer value
      · cases read
  | float value => exact isRanked_of_finite read
  | text value =>
      rw [toNumber] at read
      cases found : Numeral.float? value.toList with
      | none =>
          rw [found] at read
          cases read
      | some parsed =>
          rw [found] at read
          exact isRanked_of_finite read
  | _ => cases read

end Value

/-- The operators that order the values of a type. -/
inductive ValueType.IsOrderedBy : ValueType → (less greater : Operator) → Prop where
  | number : IsOrderedBy .number .lt .gt
  | date : IsOrderedBy .date .before .after

namespace ValueType.IsOrderedBy

theorem isRanked {type : ValueType} {less greater : Operator}
    (ordered : type.IsOrderedBy less greater) {value : Value} {subject : Subject}
    (read : type.read value = .ok subject) : Subject.IsRanked type subject := by
  cases ordered with
  | number =>
      obtain ⟨number, found, rfl⟩ := Except.map_eq_ok.mp read
      exact Value.isRanked_of_toNumber found
  | date =>
      obtain ⟨moment, -, rfl⟩ := Except.map_eq_ok.mp read
      exact .moment moment

end ValueType.IsOrderedBy

/-- Where the value that is read from a value stands among the others. -/
def ValueType.rank (type : ValueType) (value : Value) : Rat :=
  match type.read value with
  | .ok subject => subject.rank
  | .error _ => 0

theorem ValueType.rank_of_read {type : ValueType} {value : Value} {subject : Subject}
    (read : type.read value = .ok subject) : type.rank value = subject.rank := by
  rw [rank, read]

/-! ## Relations -/

namespace ValueType.IsOrderedBy

variable {type : ValueType} {less greater : Operator} (ordered : type.IsOrderedBy less greater)
  {a b c : Value} (readsA : type.reads a = true) (readsB : type.reads b = true) {result : Bool}

include ordered readsA readsB

theorem less_of_reads :
    ∃ left right, type.read a = .ok left ∧ type.read b = .ok right ∧
      left.less right = decide (type.rank a < type.rank b) ∧
        left.same right = decide (type.rank a = type.rank b) := by
  obtain ⟨left, readLeft⟩ := reads_iff.mp readsA
  obtain ⟨right, readRight⟩ := reads_iff.mp readsB
  have first := ordered.isRanked readLeft
  have second := ordered.isRanked readRight
  rw [rank_of_read readLeft, rank_of_read readRight]
  exact ⟨left, right, readLeft, readRight, first.less_eq second, first.same_eq second⟩

theorem relates_eq_iff :
    Operator.eq.Relates type a b result ↔ decide (type.rank a = type.rank b) = result := by
  have legal : type.allows .eq = true := by cases ordered <;> rfl
  obtain ⟨left, right, readLeft, readRight, -, same⟩ := ordered.less_of_reads readsA readsB
  rw [(Operator.relates_of_read rfl legal readLeft readRight).iff, Comparison.holds, same]

end ValueType.IsOrderedBy

/-! ## The laws -/

end Rulebook
