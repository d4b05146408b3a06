import Rulebook.Proofs.Condition.IntegerText
import Rulebook.Proofs.Condition.Membership

/-!
# Numbers given as texts

The value and the operands of a condition on numbers may be given as integers or as the decimal
texts of these.  A text is accepted when the integer is, and it is read as the member of the binary
format nearest to it: conditions do not tell the two apart exactly when the integer has a short
form.
-/

namespace Rulebook

/-! ## Writing an integer as text -/

/-- Whether a value is another one as it stands, or with the integer as decimal text. -/
inductive Value.IsWritten (number : Int) : Value → Value → Prop where
  | kept (value : Value) : IsWritten number value value
  | decimal {text : String} (decimal : IsDecimalOf number text) :
      IsWritten number (.int number) (.text text)

/-- Whether an operand is another one in which the integer may be written as text, also as an item
of a list. -/
inductive Value.IsWrittenOperand (number : Int) : Value → Value → Prop where
  | single {value written : Value} (writes : value.IsWritten number written) :
      IsWrittenOperand number value written
  | list {items written : List Value} (writes : List.Forall₂ (IsWritten number) items written) :
      IsWrittenOperand number (.list items) (.list written)
  | tuple {items written : List Value} (writes : List.Forall₂ (IsWritten number) items written) :
      IsWrittenOperand number (.tuple items) (.tuple written)

/-- Whether operands are others in which the integer may be written as text. -/
structure Operands.AreWritten (number : Int) (operands written : Operands) : Prop where
  value : operands.value.IsWrittenOperand number written.value
  value2 : operands.value2.IsWritten number written.value2
  delimiter : written.delimiter = operands.delimiter

/-- Whether an operand that is a text has the delimiter nowhere, so that it lists one item. -/
def Operands.IsUndivided (operands : Operands) : Prop :=
  ∀ text delimiter, operands.value = .text text → operands.delimiter = some delimiter →
    Text.containsPart delimiter.toList text.toList = false

theorem Value.IsWritten.isPresent_eq {number : Int} {value written : Value}
    (writes : value.IsWritten number written) : written.isPresent = value.isPresent := by
  cases writes <;> rfl

theorem Value.IsWritten.isNull_eq {number : Int} {value written : Value}
    (writes : value.IsWritten number written) : written.isNull = value.isNull := by
  cases writes <;> rfl

/-! ## Lists of one item -/

namespace Text

theorem splitBlanksFrom_of_blank {text : List Char} (blank : ∀ c ∈ text, isBlank c = true)
    (pending : List Char) :
    splitBlanksFrom pending text = if pending.isEmpty then [] else [pending.reverse] := by
  induction text generalizing pending with
  | nil => rfl
  | cons c text ih =>
      obtain ⟨here, later⟩ := List.forall_mem_cons.mp blank
      rw [splitBlanksFrom, if_pos here, ih later]
      rfl

theorem splitBlanksFrom_append_of_blank {before : List Char}
    (blank : ∀ c ∈ before, isBlank c = true) (rest : List Char) :
    splitBlanksFrom [] (before ++ rest) = splitBlanksFrom [] rest := by
  induction before with
  | nil => rfl
  | cons c before ih =>
      obtain ⟨here, later⟩ := List.forall_mem_cons.mp blank
      rw [List.cons_append, splitBlanksFrom, if_pos here, if_pos List.isEmpty_nil, ih later]

theorem splitBlanksFrom_append_of_not_blank {word : List Char}
    (whole : ∀ c ∈ word, isBlank c = false) (pending rest : List Char) :
    splitBlanksFrom pending (word ++ rest) = splitBlanksFrom (word.reverse ++ pending) rest := by
  induction word generalizing pending with
  | nil => rfl
  | cons c word ih =>
      obtain ⟨here, later⟩ := List.forall_mem_cons.mp whole
      rw [List.cons_append, splitBlanksFrom, here, if_neg (by decide), ih later,
        List.reverse_cons, List.append_assoc]
      rfl

/-- A word with blanks around it is the only word of its text. -/
theorem splitAtBlanks_of_word {before word after : List Char} (given : word ≠ [])
    (blank : ∀ c ∈ before ++ after, isBlank c = true) (whole : ∀ c ∈ word, isBlank c = false) :
    splitAtBlanks (before ++ word ++ after) = [word] := by
  obtain ⟨first, last⟩ := List.forall_mem_append.mp blank
  rw [splitAtBlanks, List.append_assoc, splitBlanksFrom_append_of_blank first,
    splitBlanksFrom_append_of_not_blank whole, splitBlanksFrom_of_blank last]
  simp [given]

theorem containsPart_nil (text : List Char) : containsPart [] text = true := by
  cases text <;> rfl

end Text

namespace IsDecimalOf

variable {number : Int} {text : String}

theorem trim (decimal : IsDecimalOf number text) : IsDecimalOf number (Text.trim text) := by
  refine ⟨[], [], by simp, ?_⟩
  rw [Text.trim, String.toList_ofList, decimal.trimWhile_eq, List.nil_append, List.append_nil]

/-- An integer given as text is a list of one item, unless the delimiter occurs in the text. -/
theorem listed_eq (decimal : IsDecimalOf number text) {delimiter : Option String}
    (undivided : ∀ separator, delimiter = some separator →
      Text.containsPart separator.toList text.toList = false) :
    Operands.listed delimiter text = .ok [Text.trim text] := by
  have trimmed := decimal.trimWhile_eq
  have given := Numeral.toList_integerText_ne_nil number
  cases delimiter with
  | none =>
      obtain ⟨before, after, blank, form⟩ := decimal
      have whole : ∀ c ∈ (Numeral.integerText number).toList, Text.isBlank c = false :=
        fun c member => isBlank_of_isDateChar (Numeral.isDateChar_of_mem_integerText member)
      have word : Text.splitAtBlanks text.toList = [(Numeral.integerText number).toList] := by
        rw [form, Text.splitAtBlanks_of_word given blank whole]
      simp [Operands.listed, word, Text.trim, trimmed, Text.trimWhile_eq_self whole, given]
  | some separator =>
      have absent := undivided separator rfl
      have nonempty : separator ≠ "" := by
        rintro rfl
        rw [String.toList_empty, Text.containsPart_nil] at absent
        cases absent
      rw [listed_of_given nonempty, Text.splitFrom_of_not_containsPart absent]
      simp [Text.trim, trimmed, given]

end IsDecimalOf

/-! ## Alike readings -/

/-- Whether two subjects are numbers of the same exact value. -/
structure Subject.AreAlike (left right : Subject) : Prop where
  first : left.IsRanked .number
  second : right.IsRanked .number
  same : left.rank = right.rank

namespace Subject.AreAlike

variable {left right left' right' : Subject} (here : left.AreAlike left')
  (there : right.AreAlike right')

include here there

theorem less_eq : left'.less right' = left.less right := by
  rw [here.second.less_eq there.second, here.first.less_eq there.first, here.same, there.same]

theorem same_eq : left'.same right' = left.same right := by
  rw [here.second.same_eq there.second, here.first.same_eq there.first, here.same, there.same]

/-- Relations do not tell numbers of the same value apart. -/
theorem holds_eq (comparison : Comparison) :
    comparison.holds left' right' = comparison.holds left right := by
  have less := less_eq here there
  have greater := less_eq there here
  have same := same_eq here there
  cases comparison with
  | containing | starting | ending =>
      -- Numbers are no texts.
      cases here.first <;> cases here.second <;> rfl
  | _ => simp only [Comparison.holds, less, greater, same]

end Subject.AreAlike

/-- Whether two readings as numbers are both refused, or have the same exact number. -/
inductive Coerced.AreAlike : Coerced Subject → Coerced Subject → Prop where
  | refused (left right : CoercionIssue) : AreAlike (refuse left) (refuse right)
  | read {left right : Subject} (alike : left.AreAlike right) : AreAlike (.ok left) (.ok right)

/-- Whether a condition that ends with the result matches. -/
def Coerced.matched (result : Coerced Outcome) : Except Fault Bool :=
  result.outcome.map Outcome.matched

namespace Coerced

theorem areAlike_self (value : Value) :
    AreAlike (ValueType.number.read value) (ValueType.number.read value) := by
  cases reading : ValueType.number.reads value with
  | true =>
      obtain ⟨subject, read⟩ := ValueType.reads_iff.mp reading
      have ranked := ValueType.IsOrderedBy.number.isRanked read
      rw [read]
      exact .read ⟨ranked, ranked, rfl⟩
  | false =>
      have refuses := ValueType.IsListable.number.refusesOnly_read value
      obtain ⟨issue, refused⟩ := exists_refuse_of_not_reads refuses reading
      rw [refused]
      exact .refused issue issue

/-- Alike readings that are used in a like manner match alike. -/
theorem AreAlike.matched_bind {left right : Coerced Subject} (alike : AreAlike left right)
    {next next' : Subject → Coerced Outcome}
    (agree : ∀ {subject subject'}, subject.AreAlike subject' →
      (next' subject').matched = (next subject).matched) :
    (right >>= next').matched = (left >>= next).matched := by
  cases alike with
  | refused => rfl
  | read alike => exact agree alike

theorem matched_ofTest (test : Bool) (reason : Reason) :
    matched (.ok (.ofTest test reason)) = .ok test :=
  congrArg Except.ok (Operator.matched_ofTest test reason)

end Coerced

/-- Whether the texts of an integer are read like the integer. -/
def ReadsAlike (number : Int) : Prop :=
  ∀ text, IsDecimalOf number text →
    Coerced.AreAlike (ValueType.number.read (.int number)) (ValueType.number.read (.text text))

namespace ReadsAlike

variable {number : Int} (reads : ReadsAlike number)

include reads

theorem read {value written : Value} (writes : value.IsWritten number written) :
    Coerced.AreAlike (ValueType.number.read value) (ValueType.number.read written) := by
  cases writes with
  | kept => exact Coerced.areAlike_self value
  | decimal decimal => exact reads _ decimal

theorem readOperand {value written : Value} (writes : value.IsWritten number written)
    (name : String) :
    Coerced.AreAlike (Operands.readOperand .number name value)
      (Operands.readOperand .number name written) := by
  rw [Operands.readOperand, Operands.readOperand, writes.isNull_eq]
  split
  · exact .refused _ _
  · exact reads.read writes

/-- Lists are refused, whatever their items are. -/
theorem readOperand_first {value written : Value} (writes : value.IsWrittenOperand number written)
    (name : String) :
    Coerced.AreAlike (Operands.readOperand .number name value)
      (Operands.readOperand .number name written) := by
  cases writes with
  | single writes => exact reads.readOperand writes name
  | list | tuple => exact .refused _ _

variable {operands written : Operands} (writes : operands.AreWritten number written)
  {subject subject' : Subject} (alike : subject.AreAlike subject')

include writes alike

theorem matched_checkRelation (comparison : Comparison) :
    (checkRelation .number comparison written subject').matched =
      (checkRelation .number comparison operands subject).matched := by
  refine (reads.readOperand_first writes.value "value").matched_bind fun operand => ?_
  rw [alike.holds_eq operand]
  exact (Coerced.matched_ofTest _ _).trans (Coerced.matched_ofTest _ _).symm

theorem matched_checkBetween :
    (checkBetween .number written subject').matched =
      (checkBetween .number operands subject).matched := by
  refine (reads.readOperand_first writes.value "value").matched_bind fun {one _} first => ?_
  refine (reads.readOperand writes.value2 "value2").matched_bind fun {two _} second => ?_
  rw [second.less_eq first]
  cases two.less one with
  | true =>
      simp only [if_true, alike.less_eq second, first.less_eq alike]
      exact (Coerced.matched_ofTest _ _).trans (Coerced.matched_ofTest _ _).symm
  | false =>
      simp only [Bool.false_eq_true, if_false, alike.less_eq first, second.less_eq alike]
      exact (Coerced.matched_ofTest _ _).trans (Coerced.matched_ofTest _ _).symm

end ReadsAlike

/-! ## Lists -/

namespace Operands.AreWritten

variable {number : Int} {operands written : Operands}

/-- The items of a list are others as they stand, or with the integer as text. -/
theorem members_eq (writes : operands.AreWritten number written)
    (undivided : operands.value = .int number → written.IsUndivided) :
    written.members = operands.members ∨
      ∃ items others, operands.members = .ok items ∧ written.members = .ok others ∧
        List.Forall₂ (Value.IsWritten number) items others := by
  obtain ⟨value, value2, delimiter⟩ := operands
  obtain ⟨value', value2', delimiter'⟩ := written
  obtain ⟨first, -, same⟩ := writes
  dsimp only at first same undivided
  subst same
  cases first with
  | single writes =>
      cases writes with
      | kept => exact .inl rfl
      | @decimal text decimal =>
          refine .inr ⟨[.int number], [.text (Text.trim text)], rfl, ?_, ?_⟩
          · rw [Operands.members]
            dsimp only
            rw [decimal.listed_eq fun separator given => undivided rfl text separator rfl given]
            rfl
          · exact .cons (.decimal decimal.trim) .nil
  | list writes => exact .inr ⟨_, _, rfl, rfl, writes⟩
  | tuple writes => exact .inr ⟨_, _, rfl, rfl, writes⟩

end Operands.AreWritten

theorem forall₂_self_of_readable {items : List Value} {subjects : List Subject}
    (read : readable .number items = .ok subjects) :
    List.Forall₂ Subject.AreAlike subjects subjects := by
  refine List.forall₂_same.mpr fun subject member => ?_
  obtain ⟨item, -, readItem⟩ := exists_of_mem_readable read member
  have ranked := ValueType.IsOrderedBy.number.isRanked readItem
  exact ⟨ranked, ranked, rfl⟩

theorem any_same_eq {subject subject' : Subject} (alike : subject.AreAlike subject')
    {subjects others : List Subject} (list : List.Forall₂ Subject.AreAlike subjects others) :
    others.any subject'.same = subjects.any subject.same := by
  induction list with
  | nil => rfl
  | cons here _ ih => rw [List.any_cons, List.any_cons, alike.same_eq here, ih]

namespace ReadsAlike

variable {number : Int} (reads : ReadsAlike number)

include reads

theorem readable_alike {items others : List Value}
    (writes : List.Forall₂ (Value.IsWritten number) items others) :
    ∃ subjects subjects', readable .number items = .ok subjects ∧
      readable .number others = .ok subjects' ∧
        List.Forall₂ Subject.AreAlike subjects subjects' := by
  induction writes with
  | nil => exact ⟨[], [], rfl, rfl, .nil⟩
  | @cons item other items others here _ ih =>
      obtain ⟨subjects, subjects', read, read', alike⟩ := ih
      have alikeHere := reads.read here
      rw [readable, readable, read, read']
      generalize ValueType.number.read item = left at alikeHere ⊢
      generalize ValueType.number.read other = right at alikeHere ⊢
      cases alikeHere with
      | refused => exact ⟨subjects, subjects', rfl, rfl, alike⟩
      | read first => exact ⟨_, _, rfl, rfl, .cons first alike⟩

variable {operands written : Operands} (writes : operands.AreWritten number written)

include writes

theorem isMember_eq (undivided : operands.value = .int number → written.IsUndivided)
    {subject subject' : Subject} (alike : subject.AreAlike subject') :
    isMember .number written subject' = isMember .number operands subject := by
  rw [Rulebook.isMember_eq, Rulebook.isMember_eq, Operands.subjects, Operands.subjects]
  rcases writes.members_eq undivided with same | ⟨items, others, members, members', list⟩
  · rw [same]
    cases members : operands.members with
    | error fault => rfl
    | ok items =>
        cases read : readable .number items with
        | error fault =>
            exact (readable_ne_error ValueType.IsListable.number.ne_date items read).elim
        | ok subjects =>
            change Except.map _ (readable .number items) = Except.map _ (readable .number items)
            rw [read]
            exact congrArg Except.ok (any_same_eq alike (forall₂_self_of_readable read))
  · obtain ⟨subjects, subjects', read, read', list⟩ := reads.readable_alike list
    rw [members, members']
    change Except.map _ (readable .number others) = Except.map _ (readable .number items)
    rw [read, read']
    exact congrArg Except.ok (any_same_eq alike list)

theorem matched_test {operator : Operator} (legal : ValueType.number.allows operator = true)
    (undivided : operator = .isIn ∨ operator = .notIn → operands.value = .int number →
      written.IsUndivided)
    {subject subject' : Subject} (alike : subject.AreAlike subject') :
    (operator.test .number written subject').matched =
      (operator.test .number operands subject).matched := by
  cases asks : operator.comparison? with
  | some comparison =>
      rw [Operator.test_of_comparison asks, Operator.test_of_comparison asks]
      exact reads.matched_checkRelation writes alike comparison
  | none =>
      cases operator with
      | between => exact reads.matched_checkBetween writes alike
      | isIn =>
          have member := reads.isMember_eq writes (undivided (.inl rfl)) alike
          rw [Coerced.matched, Coerced.matched, outcome_test_isIn, outcome_test_isIn, member]
          cases isMember .number operands subject with
          | error fault => rfl
          | ok member => cases member <;> rfl
      | notIn =>
          have member := reads.isMember_eq writes (undivided (.inr rfl)) alike
          rw [Coerced.matched, Coerced.matched, outcome_test_notIn, outcome_test_notIn, member]
          cases isMember .number operands subject with
          | error fault => rfl
          | ok member => cases member <;> rfl
      | regex => cases legal
      | «exists» | notExists | empty | notEmpty => rfl
      | _ => cases asks

end ReadsAlike

/-! ## Conditions -/

/-- Whether a condition matches as before when the integer is written as text, as the value or in
the operands. -/
def MatchesAlike (number : Int) : Prop :=
  ∀ (operator : Operator) (candidate candidate' : Value) (operands written : Operands),
    candidate.IsWritten number candidate' → operands.AreWritten number written →
      (operator = .isIn ∨ operator = .notIn → operands.value = .int number →
        written.IsUndivided) →
        (operator.applyTo .number written candidate').map Outcome.matched =
          (operator.applyTo .number operands candidate).map Outcome.matched

/-- A condition does not tell an integer from its texts when these are read like the integer. -/
theorem ReadsAlike.matchesAlike {number : Int} (reads : ReadsAlike number) :
    MatchesAlike number := by
  intro operator candidate candidate' operands written writes writesOperands undivided
  cases legal : ValueType.number.allows operator with
  | false =>
      unfold Operator.applyTo
      rw [legal]
      rfl
  | true =>
      cases reading : operator.readsValue with
      | true =>
          rw [Operator.applyTo_of_readsValue legal reading,
            Operator.applyTo_of_readsValue legal reading, writes.isPresent_eq]
          split
          · rfl
          · exact (reads.read writes).matched_bind fun alike =>
              reads.matched_test writesOperands legal undivided alike
      | false =>
          have present := writes.isPresent_eq
          cases operator with
          | «exists» | notExists =>
              change Except.ok _ = Except.ok _
              rw [Operator.matched_ofTest, Operator.matched_ofTest, present]
          | empty | notEmpty => cases legal
          | _ => cases reading

/-! ## Exact numbers -/

/-- Whether the texts of an integer that is accepted are accepted as the same exact number. -/
def IsExactAsText (number : Int) : Prop :=
  ∀ text value, IsDecimalOf number text → (Value.int number).toNumber = .ok value →
    ∃ read, (Value.text text).toNumber = .ok read ∧ read.toRat = value.toRat

section Readings

variable {number : Int} {text : String}

theorem toNumber_int (number : Int) :
    (Value.int number).toNumber =
      if (Binary64.ofInt number).isFinite then .ok (.integer number)
      else refuse .tooLargeForNumber := by
  rw [Value.toNumber]

theorem toNumber_text_of_isDecimalOf (decimal : IsDecimalOf number text) :
    (Value.text text).toNumber =
      if (Binary64.ofInt number).isFinite then .ok (.real (Binary64.ofInt number))
      else refuse (.notFinite (Binary64.ofInt number)) := by
  rw [decimal.toNumber_eq, Value.finite]

theorem read_of_toNumber {value : Value} {found : Number} (read : value.toNumber = .ok found) :
    ValueType.number.read value = .ok (.number found) := by
  rw [ValueType.read, read]
  rfl

theorem reads_iff_of_toNumber {value : Value} {inRange : Bool} {found : Number}
    {issue : CoercionIssue}
    (reading : value.toNumber = if inRange then .ok found else refuse issue) :
    ValueType.number.reads value = true ↔ inRange = true := by
  rw [ValueType.reads_iff]
  constructor
  · rintro ⟨subject, read⟩
    obtain ⟨value, read, -⟩ := Except.map_eq_ok.mp read
    rw [reading] at read
    split at read
    · assumption
    · cases read
  · rintro rfl
    exact ⟨_, read_of_toNumber reading⟩

end Readings

/-- An integer that has a short form, or that is out of range, is read alike in both forms. -/
theorem readsAlike_of_hasShortForm {number : Int}
    (short : (Binary64.ofInt number).isFinite = true → Binary64.HasShortForm number) :
    ReadsAlike number := by
  intro text decimal
  have ofInt := toNumber_int number
  have ofText := toNumber_text_of_isDecimalOf decimal
  cases inRange : (Binary64.ofInt number).isFinite with
  | false =>
      rw [ValueType.read, ValueType.read, ofInt, ofText, inRange]
      exact .refused _ _
  | true =>
      rw [inRange] at ofInt ofText
      rw [read_of_toNumber ofInt, read_of_toNumber ofText]
      have exact : (Binary64.ofInt number).toRat = number :=
        (Binary64.toRat_ofInt_eq_iff inRange).mpr (short inRange)
      exact .read ⟨.integer number, .real inRange, exact.symm⟩

theorem isDecimalOf_integerText (number : Int) :
    IsDecimalOf number (Numeral.integerText number) :=
  ⟨[], [], by simp, by simp⟩

/-- Where conditions match alike, an integer equals its text, so that nothing has been rounded. -/
theorem MatchesAlike.hasShortForm {number : Int} (alike : MatchesAlike number)
    (inRange : (Binary64.ofInt number).isFinite = true) : Binary64.HasShortForm number := by
  have decimal := isDecimalOf_integerText number
  have ofInt := toNumber_int number
  have ofText := toNumber_text_of_isDecimalOf decimal
  have readsInt := (reads_iff_of_toNumber ofInt).mpr inRange
  have readsText := (reads_iff_of_toNumber ofText).mpr inRange
  have equal : Operator.eq.Relates .number (.int number) (.int number) true :=
    (ValueType.IsOrderedBy.number.relates_eq_iff readsInt readsInt).mpr (decide_eq_true rfl)
  obtain ⟨outcome, applied, matched⟩ := equal .null none
  have same := alike .eq (.int number) (.int number)
    ⟨.int number, .null, none⟩ ⟨.text (Numeral.integerText number), .null, none⟩ (.kept _)
    ⟨.single (.decimal decimal), .kept _, rfl⟩ (by simp)
  rw [applied, Except.map, matched] at same
  obtain ⟨other, appliedOther, matchedOther⟩ := Except.map_eq_ok.mp same
  have equalText : Operator.eq.Relates .number (.int number)
      (.text (Numeral.integerText number)) _ :=
    (ValueType.IsOrderedBy.number.relates_eq_iff readsInt readsText).mpr rfl
  have rank := (equalText .null none).unique ⟨other, appliedOther, matchedOther⟩
  rw [inRange] at ofInt ofText
  rw [decide_eq_true_iff, ValueType.rank_of_read (read_of_toNumber ofInt),
    ValueType.rank_of_read (read_of_toNumber ofText)] at rank
  exact (Binary64.toRat_ofInt_eq_iff inRange).mp rank.symm

/-- A text is the same exact number as its integer when nothing has been rounded. -/
theorem isExactAsText_iff {number : Int} :
    IsExactAsText number ↔
      ((Binary64.ofInt number).isFinite = true → Binary64.HasShortForm number) := by
  have ofInt := toNumber_int number
  constructor
  · intro exact inRange
    have decimal := isDecimalOf_integerText number
    have ofText := toNumber_text_of_isDecimalOf decimal
    rw [inRange] at ofInt ofText
    obtain ⟨read, found, same⟩ := exact _ _ decimal ofInt
    rw [ofText] at found
    cases found
    exact (Binary64.toRat_ofInt_eq_iff inRange).mp same
  · intro short text value decimal read
    have ofText := toNumber_text_of_isDecimalOf decimal
    rw [ofInt] at read
    split at read
    · rename_i inRange
      cases read
      rw [if_pos inRange] at ofText
      exact ⟨_, ofText, (Binary64.toRat_ofInt_eq_iff inRange).mpr (short inRange)⟩
    · cases read

/-- The texts of an integer are accepted when the integer is.  They are the same exact number, and
conditions do not tell them from the integer, exactly when the integer has a short form or is not
accepted. -/
theorem agreesAsText_iff (number : Int) :
    (∀ text, IsDecimalOf number text →
        ValueType.number.reads (.text text) = ValueType.number.reads (.int number)) ∧
      (IsExactAsText number ↔
        (ValueType.number.reads (.int number) = true → Binary64.HasShortForm number)) ∧
      (MatchesAlike number ↔
        (ValueType.number.reads (.int number) = true → Binary64.HasShortForm number)) := by
  have accepted := reads_iff_of_toNumber (toNumber_int number)
  refine ⟨?_, ?_, ?_⟩
  · intro text decimal
    rw [Bool.eq_iff_iff, accepted]
    exact reads_iff_of_toNumber (toNumber_text_of_isDecimalOf decimal)
  · rw [accepted]
    exact isExactAsText_iff
  · rw [accepted]
    constructor
    · exact MatchesAlike.hasShortForm
    · intro short
      exact (readsAlike_of_hasShortForm short).matchesAlike

/-- An integer of 54 bits is accepted as a number and as text, and is not equal to itself. -/
theorem not_agreesAsText_of_many_bits :
    ¬ IsExactAsText 9007199254740993 ∧
      Operator.eq.Answers .number ⟨.int 9007199254740993, .null, none⟩ (.int 9007199254740993)
        true ∧
      Operator.eq.Answers .number ⟨.text "9007199254740993", .null, none⟩
        (.int 9007199254740993) false := by
  have readsInt : ValueType.number.reads (.int 9007199254740993) = true := by rfl
  have readsText : ValueType.number.reads (.text "9007199254740993") = true := by rfl
  have equal := (ValueType.IsOrderedBy.number.relates_eq_iff readsInt readsInt).mpr
    (decide_eq_true rfl)
  have different : Operator.eq.Relates .number (.int 9007199254740993)
      (.text "9007199254740993") false :=
    (ValueType.IsOrderedBy.number.relates_eq_iff readsInt readsText).mpr (by rfl)
  refine ⟨?_, equal .null none, different .null none⟩
  intro exact
  have short : Binary64.HasShortForm 9007199254740993 :=
    isExactAsText_iff.mp exact (by decide)
  rw [Binary64.hasShortForm_iff_dvd (by decide)] at short
  exact absurd short (by decide)

end Rulebook
