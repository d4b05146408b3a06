import Rulebook.Proofs.Condition.Ordering
import Rulebook.Rule.Scaffold

/-!
# Seeded conditions

A value suggests a condition: its type, the default operator of the type, and an operand taken from
the value.  The value holds of this condition when it can be read as its type; a point in time has
to come after the date that is taken from it, since its condition asks for later ones.
-/

namespace Rulebook

theorem Text.dropStart?_self (text : List Char) : dropStart? text text = some [] := by
  induction text with
  | nil => rfl
  | cons c text ih => rw [dropStart?, if_pos rfl, ih]

theorem Text.containsPart_self (text : List Char) : containsPart text text = true := by
  cases text with
  | nil => rfl
  | cons c text =>
      rw [containsPart, dropStart?_self]
      rfl

/-- Whether a value can hold of the condition that it suggests: a number has to be readable, and a
point in time has to come after the date that is taken from it. -/
structure Value.IsSeedable (value : Value) : Prop where
  present : value.isPresent = true
  readable : value.kind = .number → ∃ number, value.toNumber = .ok number
  later : value.suggestedType = .date → ∃ moment seeded, value.toMoment = .ok moment ∧
    value.seed.toMoment = .ok seeded ∧ seeded.instant < moment.instant

namespace Operator

variable {value operand : Value}

theorem relates_exists {type : ValueType} (legal : type.allows .exists = true)
    (present : value.isPresent = true) : Operator.exists.Relates type value operand true := by
  intro second delimiter
  unfold Answers applyTo
  rw [legal, present, if_neg (by decide)]
  exact ⟨_, rfl, rfl⟩

theorem relates_contains_self (text : String) :
    contains.Relates .string (.text text) (.text text) true := by
  have holds : Comparison.containing.holds (.text text) (.text text) = true :=
    Text.containsPart_self text.toList
  rw [← holds]
  exact relates_of_read rfl rfl rfl rfl

theorem relates_eq_number {number : Number} (read : value.toNumber = .ok number) :
    eq.Relates .number value value true := by
  have reads : ValueType.number.reads value = true :=
    ValueType.reads_iff.mpr ⟨.number number, Except.map_eq_ok.mpr ⟨number, read, rfl⟩⟩
  exact (ValueType.IsOrderedBy.number.relates_eq_iff reads reads).mpr (decide_eq_true rfl)

theorem relates_eq_bool (truth : Bool) :
    eq.Relates .boolean (.bool truth) (.bool truth) true := by
  have holds : Comparison.equal.holds (.bool truth) (.bool truth) = true := beq_self_eq_true truth
  rw [← holds]
  exact relates_of_read rfl rfl rfl rfl

theorem relates_after {moment earlier : DateTime} (read : value.toMoment = .ok moment)
    (readOther : operand.toMoment = .ok earlier) (before : earlier.instant < moment.instant) :
    after.Relates .date value operand true := by
  have holds : Comparison.after.holds (.moment moment) (.moment earlier) = true :=
    decide_eq_true before
  rw [← holds]
  exact relates_of_read rfl rfl (Except.map_eq_ok.mpr ⟨moment, read, rfl⟩)
    (Except.map_eq_ok.mpr ⟨earlier, readOther, rfl⟩)

/-- A value holds of the condition that it suggests. -/
theorem relates_seed (seedable : value.IsSeedable) :
    value.suggestedType.defaultOperator.Relates value.suggestedType value value.seed true := by
  obtain ⟨present, readable, later⟩ := seedable
  have afterSeed (isDate : value.suggestedType = .date) :
      value.suggestedType.defaultOperator.Relates value.suggestedType value value.seed true := by
    obtain ⟨moment, seeded, read, readSeed, before⟩ := later isDate
    rw [isDate]
    exact relates_after read readSeed before
  cases value with
  | absent | null => cases present
  | bool truth => exact relates_eq_bool truth
  | int _ | float _ =>
      obtain ⟨number, read⟩ := readable rfl
      exact relates_eq_number read
  | text text =>
      cases dated : Value.startsWithDate text.toList with
      | true => exact afterSeed (if_pos dated)
      | false =>
          simp only [Value.suggestedType, Value.seed, dated]
          exact relates_contains_self text
  | list _ | tuple _ | mapping _ | bytes _ => exact relates_exists rfl rfl
  | date _ | dateTime _ => exact afterSeed rfl

end Operator

end Rulebook
