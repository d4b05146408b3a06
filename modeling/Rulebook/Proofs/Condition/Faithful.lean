import Rulebook.Proofs.Condition.Rereading
import Rulebook.Proofs.Evaluation.Canonical

/-!
# Faithful conditions

Which conditions test every value alike against their operands and against the operands of their
portable form.  What an operator makes of a native date decides: a pattern has to be a text from the
start, the text of a date may fall into parts as a list, and a bound is only looked at when the
other one could be read.
-/

namespace Rulebook

/-- Whether an operand can be read as a type. -/
def ValueType.reads (type : ValueType) (operand : Value) : Bool :=
  !operand.isNull && (type.read operand).isOk

/-- Whether the operand of a list names the same members when it is written in portable form: the
delimiter does not occur in a written date, or no part of the date is a number. -/
def Value.relistsAs (operand : Value) (type : ValueType) (delimiter : String) : Bool :=
  match operand.written?, type with
  | none, _ => true
  | some written, .number =>
      ((Operands.listed (some delimiter) written).toOption.getD []).all fun part =>
        !(Value.text part).toNumber.isOk
  | some written, _ => !Text.containsPart delimiter.toList written.toList

namespace Condition

/-- Whether a condition compares with its operands in the same way after they have been written in
portable form. -/
def isFaithful (condition : Condition) (delimiter : String) : Bool :=
  match condition.operator with
  | .exists | .notExists | .empty | .notEmpty => true
  | .regex => condition.value.written?.isNone
  | .isIn | .notIn => condition.value.relistsAs condition.type delimiter
  | .between =>
      (condition.value.rereadsAs condition.type ||
          condition.type = .date && !condition.type.reads condition.value2) &&
        (!condition.type.reads condition.value || condition.value2.rereadsAs condition.type)
  | _ => condition.value.rereadsAs condition.type

end Condition

/-! ## Operands -/

theorem readOperand_portable {type : ValueType} {operand : Value}
    (kept : operand.rereadsAs type = true) (name : String) :
    Operands.readOperand type name operand.portable = Operands.readOperand type name operand := by
  rw [Operands.readOperand, Operands.readOperand, Value.isNull_portable,
    ValueType.read_portable kept]

theorem readOperand_of_not_reads {type : ValueType} {operand : Value}
    (unread : type.reads operand = false) (name : String) :
    ∃ refusal, Operands.readOperand type name operand = .error refusal := by
  rw [Operands.readOperand]
  split
  · exact ⟨_, rfl⟩
  · rename_i given
    cases read : type.read operand with
    | error refusal => exact ⟨refusal, rfl⟩
    | ok subject =>
        rw [ValueType.reads, read, Bool.eq_false_iff.mpr given] at unread
        cases unread

theorem readOperand_of_reads {type : ValueType} {operand : Value}
    (reads : type.reads operand = true) (name : String) :
    ∃ subject, Operands.readOperand type name operand = .ok subject ∧
      type.read operand = .ok subject := by
  rw [ValueType.reads, Bool.and_eq_true, Bool.not_eq_true'] at reads
  rw [Operands.readOperand, reads.1]
  cases read : type.read operand with
  | error refusal =>
      rw [read] at reads
      cases reads.2
  | ok subject => exact ⟨subject, rfl, rfl⟩

/-! ## Lists -/

theorem Value.isDateChar_of_written {operand : Value} {written : String}
    (native : operand.written? = some written) : ∀ c ∈ written.toList, isDateChar c = true := by
  cases operand with
  | date date =>
      cases native
      rw [Date.isoText, String.toList_ofList]
      exact fun c => date.isDateChar_of_mem
  | dateTime moment =>
      cases native
      rw [DateTime.isoText, String.toList_ofList]
      exact fun c => moment.isDateChar_of_mem
  | _ => cases native

theorem Value.ne_empty_of_written {operand : Value} {written : String}
    (native : operand.written? = some written) : written.toList ≠ [] := by
  cases operand with
  | date date =>
      cases native
      rw [Date.isoText, String.toList_ofList]
      exact List.cons_ne_nil _ _
  | dateTime moment =>
      cases native
      rw [DateTime.isoText, String.toList_ofList]
      exact List.cons_ne_nil _ _
  | _ => cases native

theorem listed_of_given {delimiter : String} (given : delimiter ≠ "") (text : String) :
    Operands.listed (some delimiter) text =
      .ok ((((Text.splitFrom delimiter.toList 0 [] text.toList).map
        (Text.trimWhile Text.isBlank)).filter (!·.isEmpty)).map String.ofList) := by
  have separator : delimiter.toList.isEmpty = false := by
    rw [Bool.eq_false_iff, ne_eq, List.isEmpty_iff, String.toList_eq_nil_iff]
    exact given
  simp only [Operands.listed, Text.splitOn?, separator]
  rfl

/-- A written date is its own only part when the delimiter does not occur in it. -/
theorem listed_written {operand : Value} {written delimiter : String}
    (native : operand.written? = some written) (given : delimiter ≠ "")
    (absent : Text.containsPart delimiter.toList written.toList = false) :
    Operands.listed (some delimiter) written = .ok [written] := by
  have trimmed : Text.trimWhile Text.isBlank written.toList = written.toList :=
    Text.trimWhile_eq_self fun c member =>
      isBlank_of_isDateChar (Value.isDateChar_of_written native c member)
  rw [listed_of_given given, Text.splitFrom_of_not_containsPart absent]
  simp [trimmed, Value.ne_empty_of_written native]

theorem readable_of_none {type : ValueType} {parts : List String}
    (unread : ∀ part ∈ parts, ∃ issue, type.read (.text part) = refuse issue) :
    readable type (parts.map .text) = .ok [] := by
  induction parts with
  | nil => rfl
  | cons part parts ih =>
      obtain ⟨⟨issue, here⟩, later⟩ := List.forall_mem_cons.mp unread
      rw [List.map_cons, readable, here]
      exact ih later

/-- A text is read as a finite number or refused. -/
theorem toNumber_text (text : String) :
    (∃ value : Binary64, value.isFinite = true ∧
        (Value.text text).toNumber = .ok (.real value)) ∨
      ∃ issue, (Value.text text).toNumber = refuse issue := by
  rw [Value.toNumber]
  cases read : Numeral.float? text.toList with
  | none => exact .inr ⟨_, rfl⟩
  | some value =>
      by_cases finite : value.isFinite = true
      · exact .inl ⟨value, finite, if_pos finite⟩
      · exact .inr ⟨.notFinite value, if_neg finite⟩

theorem toNumber_eq_refuse {part : String} (unread : (Value.text part).toNumber.isOk = false) :
    ∃ issue, ValueType.number.read (.text part) = refuse issue := by
  rcases toNumber_text part with ⟨value, -, read⟩ | ⟨issue, refused⟩
  · rw [read] at unread
    cases unread
  · refine ⟨issue, ?_⟩
    rw [ValueType.read, refused]
    rfl

theorem relistsAs_string {operand : Value} {written : String} (delimiter : String)
    (native : operand.written? = some written) :
    operand.relistsAs .string delimiter =
      !Text.containsPart delimiter.toList written.toList := by
  unfold Value.relistsAs
  rw [native]

theorem relistsAs_number {operand : Value} {written delimiter : String} {parts : List String}
    (native : operand.written? = some written)
    (listed : Operands.listed (some delimiter) written = .ok parts) :
    operand.relistsAs .number delimiter =
      parts.all fun part => !(Value.text part).toNumber.isOk := by
  unfold Value.relistsAs
  rw [native]
  dsimp only
  rw [listed]
  rfl

/-- The values that the members of a list are read as. -/
def Operands.subjects (operands : Operands) (type : ValueType) : Except Fault (List Subject) :=
  operands.members >>= readable type

theorem isMember_eq (type : ValueType) (operands : Operands) (subject : Subject) :
    isMember type operands subject =
      (operands.subjects type).map fun subjects => subjects.any subject.same := by
  rw [isMember, Operands.subjects]
  cases operands.members with
  | error fault => rfl
  | ok members =>
      change (readable type members >>= _) = (readable type members).map _
      cases readable type members <;> rfl

/-- A list that keeps its members has the same members to compare with. -/
theorem subjects_portable {type : ValueType} {operand : Value} {delimiter : String}
    (listable : type = .string ∨ type = .number) (given : delimiter ≠ "")
    (kept : operand.relistsAs type delimiter = true) (first second : Value) :
    Operands.subjects ⟨operand.portable, first, some delimiter⟩ type =
      Operands.subjects ⟨operand, second, some delimiter⟩ type := by
  cases native : operand.written? with
  | none =>
      rcases portable_tuple_or_eq native with ⟨items, rfl⟩ | same
      · exact readable_portableItems listable items
      · rw [same]
        rfl
  | some written =>
      have single : Operands.members ⟨operand, second, some delimiter⟩ = .ok [operand] := by
        cases operand <;> cases native <;> rfl
      have parts : Operands.members ⟨operand.portable, first, some delimiter⟩ =
          (Operands.listed (some delimiter) written).map (·.map .text) := by
        rw [Value.portable_of_written native]
        rfl
      rw [Operands.subjects, Operands.subjects, single, parts]
      rcases listable with rfl | rfl
      · rw [relistsAs_string delimiter native, Bool.not_eq_true'] at kept
        have text : operand.toText = .ok written := by
          cases operand <;> cases native <;> rfl
        rw [listed_written native given kept]
        change readable .string [.text written] = readable .string [operand]
        simp only [readable, ValueType.read, text]
        rfl
      · obtain ⟨parts, listed⟩ : ∃ parts, Operands.listed (some delimiter) written = .ok parts :=
          ⟨_, listed_of_given given written⟩
        rw [relistsAs_number native listed, List.all_eq_true] at kept
        have none : readable .number (parts.map .text) = .ok [] := by
          refine readable_of_none fun part member => toNumber_eq_refuse ?_
          have unread := kept part member
          rwa [Bool.not_eq_true'] at unread
        have native := Value.toNumber_native (Option.isSome_of_eq_some native)
        rw [listed]
        change readable .number (parts.map .text) = readable .number [operand]
        rw [none]
        simp only [readable, ValueType.read, native]
        rfl

theorem isMember_portable {type : ValueType} {operand : Value} {delimiter : String}
    (listable : type = .string ∨ type = .number) (given : delimiter ≠ "")
    (kept : operand.relistsAs type delimiter = true) (first second : Value) (subject : Subject) :
    isMember type ⟨operand.portable, first, some delimiter⟩ subject =
      isMember type ⟨operand, second, some delimiter⟩ subject := by
  rw [isMember_eq, isMember_eq, subjects_portable listable given kept first second]

/-! ## Bounds -/

/-- The bounds that a condition compares with, read one after the other. -/
def Operands.bounds (operands : Operands) (type : ValueType) : Coerced (Subject × Subject) := do
  let first ← operands.first type
  let second ← operands.second type
  return (first, second)

theorem exists_dateTime_of_not_rereads {value : Value}
    (lost : ¬value.rereadsAs .date = true) :
    ∃ moment, value = .dateTime moment ∧ moment.hasWholeOffset = false := by
  cases value with
  | dateTime moment => exact ⟨moment, rfl, Bool.eq_false_iff.mpr lost⟩
  | _ => exact (lost rfl).elim

theorem reads_dateTime (moment : DateTime) : ValueType.date.reads (.dateTime moment) = true := rfl

theorem readOperand_dateTime (moment : DateTime) (name : String) :
    Operands.readOperand .date name (.dateTime moment) = .ok (.moment moment.withOffset) := rfl

theorem readOperand_portable_dateTime (moment : DateTime) (name : String) :
    Operands.readOperand .date name (Value.dateTime moment).portable =
      .ok (.moment moment.readBack.withOffset) := by
  rw [Value.portable_of_written rfl, Operands.readOperand, ValueType.read,
    Value.toMoment_isoText_dateTime]
  rfl

/-- Bounds are read alike when each of them rereads, unless it is not looked at. -/
theorem bounds_portable {type : ValueType} {value value2 : Value}
    (first : value.rereadsAs type = true ∨ type = .date ∧ type.reads value2 = false)
    (second : type.reads value = false ∨ value2.rereadsAs type = true)
    (delimiter : Option String) :
    Operands.bounds ⟨value.portable, value2.portable, delimiter⟩ type =
      Operands.bounds ⟨value, value2, delimiter⟩ type := by
  simp only [Operands.bounds, Operands.first, Operands.second]
  by_cases kept : value.rereadsAs type = true
  · rw [readOperand_portable kept]
    rcases second with unread | keptToo
    · obtain ⟨refusal, refused⟩ := readOperand_of_not_reads unread "value"
      rw [refused]
      rfl
    · rw [readOperand_portable keptToo]
  · obtain ⟨rfl, unread⟩ := first.resolve_left kept
    obtain ⟨moment, rfl, -⟩ := exists_dateTime_of_not_rereads kept
    have keptToo : value2.rereadsAs .date = true := by
      refine second.resolve_left fun unread => ?_
      rw [reads_dateTime] at unread
      cases unread
    obtain ⟨refusal, refused⟩ := readOperand_of_not_reads unread "value2"
    rw [readOperand_portable keptToo, refused, readOperand_dateTime,
      readOperand_portable_dateTime]
    rfl

theorem checkBetween_eq (type : ValueType) (operands : Operands) (subject : Subject) :
    checkBetween type operands subject =
      (operands.bounds type).map fun (first, second) =>
        let (low, high) := if second.less first then (second, first) else (first, second)
        .ofTest (!subject.less low && !high.less subject) (.outside subject low high) := by
  rw [checkBetween, Operands.bounds]
  cases operands.first type with
  | error refusal => rfl
  | ok first =>
      cases operands.second type with
      | error refusal => rfl
      | ok second => rfl

theorem checkRelation_congr {type : ValueType} (comparison : Comparison) {left right : Operands}
    (same : left.first type = right.first type) (subject : Subject) :
    checkRelation type comparison left subject = checkRelation type comparison right subject := by
  rw [checkRelation, checkRelation, same]

theorem test_list_congr {type : ValueType} {left right : Operands} {subject : Subject}
    (same : isMember type left subject = isMember type right subject) :
    Operator.isIn.test type left subject = Operator.isIn.test type right subject ∧
      Operator.notIn.test type left subject = Operator.notIn.test type right subject := by
  simp only [Operator.test, same, and_self]

namespace Condition

variable {condition : Condition} {settings : Settings}

theorem operators_of_list {type : ValueType} {operator : Operator}
    (legal : type.allows operator = true) (isList : operator = .isIn ∨ operator = .notIn) :
    type = .string ∨ type = .number := by
  rcases isList with rfl | rfl <;> cases type <;> simp_all [ValueType.allows, ValueType.operators]

/-- A faithful condition tests every value alike in its own and in the portable form. -/
theorem isKept_of_isFaithful (faithful : condition.isFaithful settings.listDelimiter = true) :
    condition.IsKept settings := by
  obtain ⟨path, type, operator, value, value2, legal⟩ := condition
  funext subject
  cases operator with
  | «exists» => rfl
  | notExists => rfl
  | empty => rfl
  | notEmpty => rfl
  | regex =>
      rcases portable_tuple_or_eq (Option.isNone_iff_eq_none.mp faithful) with ⟨items, rfl⟩ | same
      · rfl
      · exact congrArg (fun operand => Coerced.ofExcept (checkPattern operand subject)) same
  | isIn =>
      have same := isMember_portable (operators_of_list legal (.inl rfl)) settings.delimiterGiven
        faithful .null value2 subject
      exact (test_list_congr same).1
  | notIn =>
      have same := isMember_portable (operators_of_list legal (.inr rfl)) settings.delimiterGiven
        faithful .null value2 subject
      exact (test_list_congr same).2
  | between =>
      simp only [isFaithful, Bool.and_eq_true, Bool.or_eq_true, Bool.not_eq_true',
        decide_eq_true_eq] at faithful
      have same := bounds_portable faithful.1 faithful.2 (some settings.listDelimiter)
      change checkBetween type ⟨value.portable, value2.portable, _⟩ subject = _
      rw [checkBetween_eq, same, ← checkBetween_eq]
      rfl
  | _ =>
      have same : Operands.first ⟨value.portable, .null, some settings.listDelimiter⟩ type =
          Operands.first ⟨value, value2, some settings.listDelimiter⟩ type :=
        readOperand_portable faithful "value"
      exact checkRelation_congr _ same subject

end Condition

end Rulebook
