import Rulebook.Proofs.Condition.LostOffsets

/-!
# Unfaithful conditions are found out

For every condition that is not faithful some value shows whether the condition compares with its
operands or with those of the portable form.
-/

namespace Rulebook.Condition

theorem exists_written {operand : Value} (native : ¬operand.written?.isNone = true) :
    ∃ written, operand.written? = some written := by
  rwa [Option.isNone_iff_eq_none, ← ne_eq, Option.ne_none_iff_exists'] at native

section Operands

variable {type : ValueType} {operator : Operator} {value value2 : Value} {delimiter : String}

/-- A comparison with an operand that rereads differently. -/
theorem relation_tellsApart {comparison : Comparison}
    (asks : operator.comparison? = some comparison) (legal : type.allows operator = true)
    (lost : ¬value.rereadsAs type = true) (first second : Value) :
    operator.TellsApart type ⟨value, first, some delimiter⟩
      ⟨value.portable, second, some delimiter⟩ := by
  cases type with
  | string => exact (lost rfl).elim
  | number =>
      obtain ⟨written, native⟩ := exists_written lost
      rw [Value.portable_of_written native]
      exact number_tellsApart asks legal native first second _
  | boolean =>
      obtain ⟨written, native⟩ := exists_written lost
      rw [Value.portable_of_written native]
      exact boolean_tellsApart asks legal native first second _
  | date =>
      obtain ⟨moment, rfl, short⟩ := exists_dateTime_of_not_rereads lost
      exact date_tellsApart asks legal short first second _
  | unknown => cases operator <;> cases asks <;> cases legal

/-- A list that does not keep its members. -/
theorem membership_tellsApart (isList : operator = .isIn ∨ operator = .notIn)
    (legal : type.allows operator = true) (given : delimiter ≠ "")
    (lost : value.relistsAs type delimiter = false) (first second : Value) :
    operator.TellsApart type ⟨value, first, some delimiter⟩
      ⟨value.portable, second, some delimiter⟩ := by
  cases native : value.written? with
  | none =>
      unfold Value.relistsAs at lost
      rw [native] at lost
      cases lost
  | some written =>
      rw [Value.portable_of_written native]
      rcases operators_of_list legal isList with rfl | rfl
      · rw [relistsAs_string delimiter native, Bool.not_eq_false'] at lost
        exact list_string_tellsApart isList legal native given lost first second
      · obtain ⟨parts, listed⟩ : ∃ parts, Operands.listed (some delimiter) written = .ok parts :=
          ⟨_, listed_of_given given written⟩
        rw [relistsAs_number native listed, List.all_eq_false] at lost
        obtain ⟨part, member, isNumber⟩ := lost
        rw [Bool.not_eq_true, Bool.not_eq_false'] at isNumber
        exact list_number_tellsApart isList legal native listed member isNumber first second

theorem isSome_of_not_rereads (lost : ¬value.rereadsAs .number = true) :
    value.written?.isSome = true := by
  obtain ⟨written, native⟩ := exists_written lost
  exact Option.isSome_of_eq_some native

/-- A range of which one bound that is looked at rereads differently. -/
theorem between_tellsApart (legal : type.allows .between = true)
    (lost : (¬value.rereadsAs type = true ∧ (type = .date → type.reads value2 = true)) ∨
      (type.reads value = true ∧ ¬value2.rereadsAs type = true)) :
    Operator.between.TellsApart type ⟨value, value2, some delimiter⟩
      ⟨value.portable, value2.portable, some delimiter⟩ := by
  cases type with
  | number =>
      exact between_number_tellsApart
        (lost.imp (fun first => isSome_of_not_rereads first.1)
          (fun second => ⟨second.1, isSome_of_not_rereads second.2⟩)) _
  | date =>
      rcases lost with ⟨changed, reads2⟩ | ⟨reads, changed⟩
      · obtain ⟨moment, rfl, -⟩ := exists_dateTime_of_not_rereads changed
        exact between_date_tellsApart (reads_dateTime moment) (reads2 rfl) (.inl changed) _
      · obtain ⟨moment, rfl, -⟩ := exists_dateTime_of_not_rereads changed
        exact between_date_tellsApart reads (reads_dateTime moment) (.inr changed) _
  | _ => cases legal

end Operands

/-- The operands of an unfaithful condition are told apart from those of its portable form. -/
theorem tellsApart_of_not_isFaithful {condition : Condition} {delimiter : String}
    (given : delimiter ≠ "") (unfaithful : condition.isFaithful delimiter = false) :
    condition.operator.TellsApart condition.type (condition.operands delimiter)
      (condition.canonical.operands delimiter) := by
  obtain ⟨path, type, operator, value, value2, legal⟩ := condition
  cases operator with
  | «exists» => cases unfaithful
  | notExists => cases unfaithful
  | empty => cases unfaithful
  | notEmpty => cases unfaithful
  | regex =>
      obtain ⟨written, native⟩ := exists_written (Bool.eq_false_iff.mp unfaithful)
      have portable := Value.portable_of_written native
      change Operator.regex.TellsApart type ⟨value, value2, _⟩ ⟨value.portable, .null, _⟩
      rw [portable]
      cases type with
      | string => exact regex_tellsApart native value2 .null _
      | _ => cases legal
  | isIn => exact membership_tellsApart (.inl rfl) legal given unfaithful value2 .null
  | notIn => exact membership_tellsApart (.inr rfl) legal given unfaithful value2 .null
  | between =>
      refine between_tellsApart legal ?_
      simp only [isFaithful, Bool.and_eq_false_iff, Bool.or_eq_false_iff, Bool.not_eq_eq_eq_not,
        Bool.not_false, decide_eq_false_iff_not] at unfaithful
      rcases unfaithful with ⟨changed, looked⟩ | ⟨reads, changed⟩
      · refine .inl ⟨Bool.eq_false_iff.mp changed, fun isDate => ?_⟩
        exact looked.resolve_left fun isNot => isNot isDate
      · exact .inr ⟨reads, Bool.eq_false_iff.mp changed⟩
  | _ => exact relation_tellsApart rfl legal (Bool.eq_false_iff.mp unfaithful) value2 .null

end Rulebook.Condition
