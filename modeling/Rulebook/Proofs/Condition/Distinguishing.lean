import Rulebook.Proofs.Condition.Faithful

/-!
# Unfaithful conditions

A condition that is not faithful is found out by some value: its trace for that value changes when
the operands are written in portable form.  Either the result changes, or both results are failures
with different reasons, in which the operand or the kind of the operand is told.
-/

namespace Rulebook

namespace Operator

/-- Whether the outcome for some value that is there shows whether the first or the second operands
have been used. -/
def TellsApart (operator : Operator) (type : ValueType) (left right : Operands) : Prop :=
  ∃ candidate outcome, candidate.isPresent = true ∧
    operator.applyTo type left candidate = .ok outcome ∧
      ∀ other, operator.applyTo type right candidate = .ok other → other.shown ≠ outcome.shown

theorem applyTo_of_read {operator : Operator} {type : ValueType} {operands : Operands}
    {candidate : Value} {subject : Subject} (legal : type.allows operator = true)
    (reading : operator.readsValue = true) (present : candidate.isPresent = true)
    (read : type.read candidate = .ok subject) :
    operator.applyTo type operands candidate = (operator.test type operands subject).outcome := by
  unfold applyTo
  rw [legal, if_neg (by decide)]
  split
  · cases reading
  · cases reading
  · cases reading
  · cases reading
  · rw [present, if_neg (by decide), read]
    rfl

/-- Operands are told apart by a value of their type that is tested differently. -/
theorem tellsApart_of_test {operator : Operator} {type : ValueType} {left right : Operands}
    (candidate : Value) (subject : Subject) (outcome : Outcome)
    (legal : type.allows operator = true) (reading : operator.readsValue = true)
    (present : candidate.isPresent = true) (read : type.read candidate = .ok subject)
    (here : (operator.test type left subject).outcome = .ok outcome)
    (there : ∀ other, (operator.test type right subject).outcome = .ok other →
      other.shown ≠ outcome.shown) :
    operator.TellsApart type left right := by
  refine ⟨candidate, outcome, present, ?_, ?_⟩
  · rw [applyTo_of_read legal reading present read, here]
  · intro other applied
    rw [applyTo_of_read legal reading present read] at applied
    exact there other applied

end Operator

/-! ## Messages -/

theorem ne_of_head? {left right : String} {c d : Char} (here : left.toList.head? = some c)
    (there : right.toList.head? = some d) (different : c ≠ d) : left ≠ right := by
  rintro rfl
  exact different (Option.some.inj (here.symm.trans there))

theorem head?_append {start : String} {c : Char} (here : start.toList.head? = some c)
    (rest : String) : (start ++ rest).toList.head? = some c := by
  rw [String.toList_append, List.head?_append, here]
  rfl

theorem shown_ne_of_message {left right : Reason} (different : left.message ≠ right.message) :
    (Outcome.fails left).shown ≠ (Outcome.fails right).shown := by
  intro same
  exact different (Option.some.inj (congrArg Prod.snd same))

theorem shown_holds_ne_fails (reason : Reason) :
    Outcome.holds.shown ≠ (Outcome.fails reason).shown := by
  intro same
  cases congrArg Prod.fst same

/-- Different results show, whatever the reasons are. -/
theorem shown_ofTest_ne {left right : Bool} (different : left ≠ right)
    (leftReason rightReason : Reason) :
    (Outcome.ofTest left leftReason).shown ≠ (Outcome.ofTest right rightReason).shown := by
  have matched (test : Bool) (reason : Reason) : (Outcome.ofTest test reason).shown.1 = test := by
    cases test <;> rfl
  intro same
  apply different
  rw [← matched left leftReason, same, matched]

theorem head?_quoted (text : String) :
    (Text.quoted text).toList.head? = some '"' ∨ (Text.quoted text).toList.head? = some '\'' := by
  rw [Text.quoted, String.toList_ofList, Text.quote, Text.quoteFor]
  split
  · exact .inl rfl
  · exact .inr rfl

/-- The refusal of a native date tells its kind, that of a text the text. -/
theorem wrongKind_message_ne (type : ValueType) (text : String) :
    (CoercionIssue.badText text type).message ≠ (CoercionIssue.wrongKind .other type).message := by
  intro same
  have chars := congrArg String.toList same
  simp only [CoercionIssue.message, String.toList_append, List.append_assoc] at chars
  have heads := congrArg List.head? (List.append_cancel_left chars)
  rw [List.head?_append] at heads
  rcases head?_quoted text with head | head <;>
    simp [head, Value.Kind.name] at heads

theorem outcome_ofExcept (result : Except Fault Outcome) :
    (Coerced.ofExcept result).outcome = result := by
  cases result <;> rfl

/-! ## Patterns -/

theorem head?_noPattern : Reason.noPattern.message.toList.head? = some 'n' := by
  decide

theorem head?_unmatched (pattern : String) :
    (Reason.unmatched (.text "") pattern).message.toList.head? = some '\'' := by
  have quotes : (Subject.text "").describe.toList.head? = some '\'' := by decide
  exact head?_append (head?_append (head?_append quotes _) _) _

theorem head?_badPattern (defect : String) :
    (Reason.badPattern defect).message.toList.head? = some 'i' := by
  have start : "invalid pattern: ".toList.head? = some 'i' := by decide
  exact head?_append start defect

/-- What a pattern that is given finds in the empty text is never that there is no pattern. -/
theorem shown_ne_noPattern {pattern : String} (given : pattern.isEmpty = false) {other : Outcome}
    (checked : checkPattern (.text pattern) (.text "") = .ok other) :
    other.shown ≠ (Outcome.fails .noPattern).shown := by
  rw [checkPattern, given, if_neg Bool.false_ne_true] at checked
  generalize Pattern.ofChars pattern.toList = compiled at checked
  cases compiled with
  | ok compiled =>
      replace checked := Except.ok.inj checked
      generalize compiled.occursIn "".toList = found at checked
      rw [← checked]
      cases found with
      | true => exact shown_holds_ne_fails _
      | false =>
          exact shown_ne_of_message
            (ne_of_head? (head?_unmatched pattern) head?_noPattern (by decide))
  | error issue =>
      cases issue with
      | defect defect =>
          replace checked := Except.ok.inj checked
          rw [← checked]
          exact shown_ne_of_message (ne_of_head? (head?_badPattern _) head?_noPattern (by decide))
      | _ => cases checked

/-- A native date is no pattern, its text is one: the empty text fails for another reason, if it
fails. -/
theorem regex_tellsApart {operand : Value} {written : String}
    (native : operand.written? = some written) (first second : Value) (delimiter : Option String) :
    Operator.regex.TellsApart .string ⟨operand, first, delimiter⟩
      ⟨.text written, second, delimiter⟩ := by
  have given : written.isEmpty = false := by
    rw [Bool.eq_false_iff, ne_eq, String.isEmpty_iff, ← String.toList_eq_nil_iff]
    exact Value.ne_empty_of_written native
  have none : checkPattern operand (.text "") = .ok (.fails .noPattern) := by
    cases operand <;> cases native <;> rfl
  refine Operator.tellsApart_of_test (.text "") (.text "") (.fails .noPattern) rfl rfl rfl rfl
    ?_ ?_
  · rw [Operator.test, outcome_ofExcept]
    exact none
  · intro other applied
    rw [Operator.test, outcome_ofExcept] at applied
    exact shown_ne_noPattern given applied

/-! ## Numbers and truth values -/

theorem Operator.test_of_comparison {operator : Operator} {comparison : Comparison}
    (asks : operator.comparison? = some comparison) (type : ValueType) (operands : Operands)
    (subject : Subject) :
    operator.test type operands subject = checkRelation type comparison operands subject := by
  cases operator <;> cases asks <;> rfl

/-- A native date is refused by its kind as a number and as a truth value. -/
theorem readOperand_written {type : ValueType} {operand : Value} {written : String}
    (plain : type = .number ∨ type = .boolean) (native : operand.written? = some written)
    (name : String) :
    Operands.readOperand type name operand = refuse (.wrongKind .other type) := by
  rcases plain with rfl | rfl <;> cases operand <;> cases native <;> rfl

theorem readOperand_text (type : ValueType) (name text : String) :
    Operands.readOperand type name (.text text) = type.read (.text text) := rfl

theorem read_number_of_written {operand : Value} {written : String}
    (native : operand.written? = some written) :
    ValueType.number.read (.text written) = refuse (.badText written .number) := by
  rw [ValueType.read, Value.toNumber_of_written native]
  rfl

theorem read_boolean_text (text : String) :
    (∃ truth, ValueType.boolean.read (.text text) = .ok (.bool truth)) ∨
      ValueType.boolean.read (.text text) = refuse (.badText text .boolean) := by
  rw [ValueType.read, Value.toBool]
  split
  · exact .inl ⟨true, rfl⟩
  · split
    · exact .inl ⟨false, rfl⟩
    · exact .inr rfl

theorem shown_wrongKind_ne (type : ValueType) (text : String) {other : Outcome}
    (refused : (refuse (.badText text type) : Coerced Outcome).outcome = .ok other) :
    other.shown ≠ (Outcome.fails (.unreadable (.wrongKind .other type))).shown := by
  rw [← Except.ok.inj refused]
  exact shown_ne_of_message (wrongKind_message_ne type text)

theorem head?_wrongKind (type : ValueType) :
    (Reason.unreadable (.wrongKind .other type)).message.toList.head? = some 'c' := by
  have start : "cannot read ".toList.head? = some 'c' := by decide
  exact head?_append (head?_append (head?_append start _) _) type.name

theorem head?_unrelated_true (comparison : Comparison) (operand : Subject) :
    (Reason.unrelated (.bool true) comparison operand).message.toList.head? = some 'T' := by
  have start : (Subject.bool true).describe.toList.head? = some 'T' := by decide
  exact head?_append (head?_append (head?_append (head?_append start _) _) _) operand.describe

theorem shown_true_ne_wrongKind (type : ValueType) (test : Bool) (comparison : Comparison)
    (operand : Subject) :
    (Outcome.ofTest test (.unrelated (.bool true) comparison operand)).shown ≠
      (Outcome.fails (.unreadable (.wrongKind .other type))).shown := by
  cases test with
  | true => exact shown_holds_ne_fails _
  | false =>
      exact shown_ne_of_message
        (ne_of_head? (head?_unrelated_true comparison operand) (head?_wrongKind type) (by decide))

/-- A refusal that tells the kind of a native date is not the refusal of its text. -/
theorem tellsApart_of_refused {operator : Operator} {type : ValueType} {left right : Operands}
    (candidate : Value) (subject : Subject) (text : String)
    (legal : type.allows operator = true) (reading : operator.readsValue = true)
    (present : candidate.isPresent = true) (read : type.read candidate = .ok subject)
    (here : operator.test type left subject = refuse (.wrongKind .other type))
    (there : operator.test type right subject = refuse (.badText text type)) :
    operator.TellsApart type left right := by
  refine Operator.tellsApart_of_test candidate subject
    (.fails (.unreadable (.wrongKind .other type))) legal reading present read ?_ ?_
  · rw [here]
    rfl
  · intro other tested
    rw [there] at tested
    exact shown_wrongKind_ne type text tested

theorem read_zero : ValueType.number.read (.int 0) = .ok (.number (.integer 0)) := rfl

section Relations

variable {operator : Operator} {comparison : Comparison} {operand : Value} {written : String}

theorem readsValue_of_comparison (asks : operator.comparison? = some comparison) :
    operator.readsValue = true := by
  cases operator <;> cases asks <;> rfl

theorem number_tellsApart (asks : operator.comparison? = some comparison)
    (legal : ValueType.number.allows operator = true) (native : operand.written? = some written)
    (first second : Value) (delimiter : Option String) :
    operator.TellsApart .number ⟨operand, first, delimiter⟩
      ⟨.text written, second, delimiter⟩ := by
  refine tellsApart_of_refused (.int 0) (.number (.integer 0)) written legal
    (readsValue_of_comparison asks) rfl read_zero ?_ ?_
  · rw [Operator.test_of_comparison asks, checkRelation, Operands.first,
      readOperand_written (.inl rfl) native]
    rfl
  · rw [Operator.test_of_comparison asks, checkRelation, Operands.first, readOperand_text,
      read_number_of_written native]
    rfl

theorem boolean_tellsApart (asks : operator.comparison? = some comparison)
    (legal : ValueType.boolean.allows operator = true) (native : operand.written? = some written)
    (first second : Value) (delimiter : Option String) :
    operator.TellsApart .boolean ⟨operand, first, delimiter⟩
      ⟨.text written, second, delimiter⟩ := by
  refine Operator.tellsApart_of_test (.bool true) (.bool true)
    (.fails (.unreadable (.wrongKind .other .boolean))) legal (readsValue_of_comparison asks) rfl
    rfl ?_ ?_
  · rw [Operator.test_of_comparison asks, checkRelation, Operands.first,
      readOperand_written (.inr rfl) native]
    rfl
  · intro other tested
    rw [Operator.test_of_comparison asks, checkRelation, Operands.first, readOperand_text]
      at tested
    rcases read_boolean_text written with ⟨truth, read⟩ | refused
    · rw [read] at tested
      rw [← Except.ok.inj tested]
      exact shown_true_ne_wrongKind _ _ _ _
    · rw [refused] at tested
      exact shown_wrongKind_ne .boolean written tested

end Relations

/-- The first of two bounds that is a native date is refused, and in portable form as well. -/
theorem between_number_tellsApart {value value2 : Value}
    (lost : value.written?.isSome = true ∨
      ValueType.number.reads value = true ∧ value2.written?.isSome = true)
    (delimiter : Option String) :
    Operator.between.TellsApart .number ⟨value, value2, delimiter⟩
      ⟨value.portable, value2.portable, delimiter⟩ := by
  by_cases native : value.written?.isSome = true
  · obtain ⟨written, native⟩ := Option.isSome_iff_exists.mp native
    refine tellsApart_of_refused (.int 0) (.number (.integer 0)) written rfl rfl rfl read_zero
      ?_ ?_
    · rw [Operator.test, checkBetween, Operands.first, readOperand_written (.inl rfl) native]
      rfl
    · rw [Operator.test, checkBetween, Operands.first, Value.portable_of_written native,
        readOperand_text, read_number_of_written native]
      rfl
  · obtain ⟨reads, native2⟩ := lost.resolve_left native
    obtain ⟨written, native2⟩ := Option.isSome_iff_exists.mp native2
    obtain ⟨subject, first, -⟩ := readOperand_of_reads reads "value"
    have kept : value.rereadsAs .number = true := by
      rw [Value.rereadsAs, Option.isNone_iff_eq_none, ← Option.not_isSome_iff_eq_none]
      exact native
    refine tellsApart_of_refused (.int 0) (.number (.integer 0)) written rfl rfl rfl read_zero
      ?_ ?_
    · rw [Operator.test, checkBetween, Operands.first, first, Operands.second,
        readOperand_written (.inl rfl) native2]
      rfl
    · rw [Operator.test, checkBetween, Operands.first, readOperand_portable kept, first,
        Operands.second, Value.portable_of_written native2, readOperand_text,
        read_number_of_written native2]
      rfl

/-! ## Lists -/

theorem exists_of_mem_readable {type : ValueType} {items : List Value} {subjects : List Subject}
    {subject : Subject} (read : readable type items = .ok subjects) (member : subject ∈ subjects) :
    ∃ item ∈ items, type.read item = .ok subject := by
  induction items generalizing subjects with
  | nil =>
      cases read
      cases member
  | cons item items ih =>
      rw [readable] at read
      split at read
      · rename_i first here
        obtain ⟨others, later, rfl⟩ := Except.map_eq_ok.mp read
        rcases List.mem_cons.mp member with rfl | member
        · exact ⟨item, List.mem_cons_self, here⟩
        · obtain ⟨other, inItems, there⟩ := ih later member
          exact ⟨other, List.mem_cons_of_mem item inItems, there⟩
      · obtain ⟨other, inItems, there⟩ := ih read member
        exact ⟨other, List.mem_cons_of_mem item inItems, there⟩
      · cases read

theorem mem_of_readable {type : ValueType} {items : List Value} {subjects : List Subject}
    {item : Value} {subject : Subject} (read : readable type items = .ok subjects)
    (member : item ∈ items) (here : type.read item = .ok subject) : subject ∈ subjects := by
  induction items generalizing subjects with
  | nil => cases member
  | cons first items ih =>
      rw [readable] at read
      rcases List.mem_cons.mp member with rfl | member
      · rw [here] at read
        obtain ⟨others, -, rfl⟩ := Except.map_eq_ok.mp read
        exact List.mem_cons_self
      · split at read
        · obtain ⟨others, later, rfl⟩ := Except.map_eq_ok.mp read
          exact List.mem_cons_of_mem _ (ih later member)
        · exact ih read member
        · cases read

theorem outcome_test_isIn (type : ValueType) (operands : Operands) (subject : Subject) :
    (Operator.isIn.test type operands subject).outcome =
      (isMember type operands subject).map fun member => .ofTest member (.notListed subject) := by
  rw [Operator.test]
  cases isMember type operands subject <;> rfl

theorem outcome_test_notIn (type : ValueType) (operands : Operands) (subject : Subject) :
    (Operator.notIn.test type operands subject).outcome =
      (isMember type operands subject).map fun member => .ofTest (!member) (.listed subject) := by
  rw [Operator.test]
  cases isMember type operands subject <;> rfl

/-- Lists are told apart by a value that is a member of one of them only. -/
theorem list_tellsApart {operator : Operator} {type : ValueType} {left right : Operands}
    (isList : operator = .isIn ∨ operator = .notIn) (legal : type.allows operator = true)
    (candidate : Value) (subject : Subject) (member : Bool)
    (present : candidate.isPresent = true) (read : type.read candidate = .ok subject)
    (here : isMember type left subject = .ok member)
    (there : ∀ other, isMember type right subject = .ok other → other ≠ member) :
    operator.TellsApart type left right := by
  rcases isList with rfl | rfl
  · refine Operator.tellsApart_of_test candidate subject (.ofTest member (.notListed subject))
      legal rfl present read ?_ ?_
    · rw [outcome_test_isIn, here]
      rfl
    · intro outcome tested
      rw [outcome_test_isIn] at tested
      obtain ⟨other, listed, rfl⟩ := Except.map_eq_ok.mp tested
      exact shown_ofTest_ne (there other listed) _ _
  · refine Operator.tellsApart_of_test candidate subject (.ofTest (!member) (.listed subject))
      legal rfl present read ?_ ?_
    · rw [outcome_test_notIn, here]
      rfl
    · intro outcome tested
      rw [outcome_test_notIn] at tested
      obtain ⟨other, listed, rfl⟩ := Except.map_eq_ok.mp tested
      have different : (!other) ≠ !member := by
        rw [ne_eq, Bool.not_inj_iff]
        exact there other listed
      exact shown_ofTest_ne different _ _

theorem members_written {operand : Value} {written : String}
    (native : operand.written? = some written) (second : Value) (delimiter : Option String) :
    Operands.members ⟨operand, second, delimiter⟩ = .ok [operand] := by
  cases operand <;> cases native <;> rfl

theorem toText_written {operand : Value} {written : String}
    (native : operand.written? = some written) : operand.toText = .ok written := by
  cases operand <;> cases native <;> rfl

theorem isMember_written {type : ValueType} {operand : Value} {written : String}
    (native : operand.written? = some written) (second : Value) (delimiter : Option String)
    (subject : Subject) :
    isMember type ⟨operand, second, delimiter⟩ subject =
      (readable type [operand]).map fun subjects => subjects.any subject.same := by
  rw [isMember_eq, Operands.subjects, members_written native]
  rfl

theorem isMember_text {type : ValueType} {written delimiter : String} {parts : List String}
    (listed : Operands.listed (some delimiter) written = .ok parts) (second : Value)
    (subject : Subject) :
    isMember type ⟨.text written, second, some delimiter⟩ subject =
      (readable type (parts.map .text)).map fun subjects => subjects.any subject.same := by
  have members : Operands.members ⟨.text written, second, some delimiter⟩ =
      .ok (parts.map .text) := by
    unfold Operands.members
    dsimp only
    rw [listed]
    rfl
  rw [isMember_eq, Operands.subjects, members]
  rfl

theorem length_lt_of_mem_listed {written delimiter part : String} {parts : List String}
    (given : delimiter ≠ "")
    (occurs : Text.containsPart delimiter.toList written.toList = true)
    (listed : Operands.listed (some delimiter) written = .ok parts) (member : part ∈ parts) :
    part.toList.length < written.toList.length := by
  rw [listed_of_given given] at listed
  rw [← Except.ok.inj listed] at member
  obtain ⟨trimmed, kept, rfl⟩ := List.mem_map.mp member
  obtain ⟨piece, isPiece, rfl⟩ := List.mem_map.mp (List.mem_filter.mp kept).1
  have separator : delimiter.toList ≠ [] := by
    rw [ne_eq, String.toList_eq_nil_iff]
    exact given
  have shorter := Text.length_lt_of_mem_splitFrom separator occurs isPiece
  have trimmed := Text.length_trimWhile_le Text.isBlank piece
  rw [String.toList_ofList]
  rw [List.length_nil] at shorter
  omega

/-- The text of a date is a member of the list of the date, but of no list of shorter texts. -/
theorem list_string_tellsApart {operator : Operator} {operand : Value} {written delimiter : String}
    (isList : operator = .isIn ∨ operator = .notIn)
    (legal : ValueType.string.allows operator = true) (native : operand.written? = some written)
    (given : delimiter ≠ "")
    (occurs : Text.containsPart delimiter.toList written.toList = true) (first second : Value) :
    operator.TellsApart .string ⟨operand, first, some delimiter⟩
      ⟨.text written, second, some delimiter⟩ := by
  obtain ⟨parts, listed⟩ : ∃ parts, Operands.listed (some delimiter) written = .ok parts :=
    ⟨_, listed_of_given given written⟩
  refine list_tellsApart isList legal (.text written) (.text written) true rfl rfl ?_ ?_
  · have read : readable .string [operand] = .ok [.text written] := by
      simp only [readable, ValueType.read, toText_written native]
      rfl
    rw [isMember_written native, read]
    simp [Except.map, Subject.same]
  · intro other isListed
    rw [isMember_text listed] at isListed
    obtain ⟨subjects, read, rfl⟩ := Except.map_eq_ok.mp isListed
    rw [ne_eq, Bool.not_eq_true, List.any_eq_false]
    intro subject inSubjects same
    obtain ⟨item, inItems, readItem⟩ := exists_of_mem_readable read inSubjects
    obtain ⟨part, inParts, rfl⟩ := List.mem_map.mp inItems
    obtain rfl := Except.ok.inj readItem
    have shorter := length_lt_of_mem_listed given occurs listed inParts
    obtain rfl := beq_iff_eq.mp same
    exact Nat.lt_irrefl _ shorter

theorem sameValue_of_isFinite {value : Binary64} (finite : value.isFinite = true) :
    value.sameValue value = true := by
  cases value with
  | finite => exact beq_self_eq_true _
  | _ => cases finite

/-- A part of the text of a date that is a number is a member of the list of the text only. -/
theorem list_number_tellsApart {operator : Operator} {operand : Value}
    {written delimiter part : String} {parts : List String}
    (isList : operator = .isIn ∨ operator = .notIn)
    (legal : ValueType.number.allows operator = true) (native : operand.written? = some written)
    (listed : Operands.listed (some delimiter) written = .ok parts) (member : part ∈ parts)
    (isNumber : (Value.text part).toNumber.isOk = true) (first second : Value) :
    operator.TellsApart .number ⟨operand, first, some delimiter⟩
      ⟨.text written, second, some delimiter⟩ := by
  obtain ⟨value, finite, number⟩ : ∃ value : Binary64, value.isFinite = true ∧
      (Value.text part).toNumber = .ok (.real value) := by
    refine (toNumber_text part).resolve_right fun ⟨issue, refused⟩ => ?_
    rw [refused] at isNumber
    cases isNumber
  have readPart : ValueType.number.read (.text part) = .ok (.number (.real value)) := by
    rw [ValueType.read, number]
    rfl
  refine list_tellsApart isList legal (.text part) (.number (.real value)) false rfl readPart
    ?_ ?_
  · have read : readable .number [operand] = .ok [] := by
      simp only [readable, ValueType.read,
        Value.toNumber_native (Option.isSome_of_eq_some native)]
      rfl
    rw [isMember_written native, read]
    rfl
  · intro other isListed
    rw [isMember_text listed] at isListed
    obtain ⟨subjects, read, rfl⟩ := Except.map_eq_ok.mp isListed
    rw [ne_eq, Bool.not_eq_false, List.any_eq_true]
    exact ⟨_, mem_of_readable read (List.mem_map_of_mem member) readPart,
      sameValue_of_isFinite finite⟩

end Rulebook
