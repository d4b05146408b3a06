import Rulebook.Proofs.Condition.Ordering

/-!
# Membership

A value is a member of a list when it is equal to one of the items, which is what equality says
when it is asked about the items one by one.  A list that is given as one text has the same members
as the list of its parts, however these are padded with blanks.
-/

namespace Rulebook

/-! ## Lists -/

/-- The types whose values are looked up in lists. -/
inductive ValueType.IsListable : ValueType → Prop where
  | string : IsListable .string
  | number : IsListable .number

/-- Whether a value is a sequence of the items. -/
inductive Value.IsSequenceOf : Value → List Value → Prop where
  | list (items : List Value) : IsSequenceOf (.list items) items
  | tuple (items : List Value) : IsSequenceOf (.tuple items) items

theorem Operands.members_of_isSequenceOf {operands : Operands} {items : List Value}
    (lists : operands.value.IsSequenceOf items) : operands.members = .ok items := by
  obtain ⟨value, value2, delimiter⟩ := operands
  cases lists <;> rfl

namespace ValueType.IsListable

variable {type : ValueType} (listable : type.IsListable)

include listable

theorem allows {operator : Operator}
    (among : operator = .eq ∨ operator = .isIn ∨ operator = .notIn) :
    type.allows operator = true := by
  cases listable <;> rcases among with rfl | rfl | rfl <;> rfl

theorem ne_date : type ≠ .date := by
  cases listable <;> decide

theorem refusesOnly_read (value : Value) : RefusesOnly (type.read value) := by
  intro refusal stopped
  cases refusal with
  | issue issue => trivial
  | fault fault => exact (listable.ne_date (ValueType.read_eq_fault_iff.mp stopped).1).elim

end ValueType.IsListable

/-! ## Items -/

namespace Operator

variable {type : ValueType} (listable : type.IsListable) {candidate : Value}

include listable

/-- A value that is read equals the items that are read as the same. -/
theorem relates_eq_true_iff {subject : Subject} (read : type.read candidate = .ok subject)
    (item : Value) :
    eq.Relates type candidate item true ↔
      ∃ other, type.read item = .ok other ∧ subject.same other = true := by
  cases reads : type.reads item with
  | true =>
      obtain ⟨other, readOther⟩ := ValueType.reads_iff.mp reads
      rw [(relates_of_read rfl (listable.allows (.inl rfl)) read readOther).iff, readOther]
      simp [Comparison.holds]
  | false =>
      rw [(relates_of_not_reads rfl (listable.refusesOnly_read candidate)
        (listable.refusesOnly_read item) (.inr reads)).iff]
      refine iff_of_false Bool.false_ne_true ?_
      rintro ⟨other, readOther, -⟩
      rw [ValueType.reads_iff.mpr ⟨other, readOther⟩] at reads
      cases reads

theorem relates_eq_of_not_reads (unread : type.reads candidate = false) (item : Value) :
    eq.Relates type candidate item false :=
  relates_of_not_reads rfl (listable.refusesOnly_read candidate) (listable.refusesOnly_read item)
    (.inl unread)

/-- Equality answers for every item. -/
theorem relates_eq_false_iff (candidate item : Value) :
    eq.Relates type candidate item false ↔ ¬ eq.Relates type candidate item true := by
  have answered : ∃ result, eq.Relates type candidate item result := by
    cases reads : type.reads candidate with
    | false => exact ⟨false, relates_eq_of_not_reads listable reads item⟩
    | true =>
        cases readsItem : type.reads item with
        | false =>
            exact ⟨false, relates_of_not_reads rfl (listable.refusesOnly_read candidate)
              (listable.refusesOnly_read item) (.inr readsItem)⟩
        | true =>
            obtain ⟨subject, read⟩ := ValueType.reads_iff.mp reads
            obtain ⟨other, readOther⟩ := ValueType.reads_iff.mp readsItem
            exact ⟨_, relates_of_read rfl (listable.allows (.inl rfl)) read readOther⟩
  obtain ⟨result, answered⟩ := answered
  rw [answered.iff, answered.iff, Bool.not_eq_true]

end Operator

/-- A subject is a member of a list when an item is read as the same. -/
theorem exists_isMember {type : ValueType} (listable : type.IsListable) {operands : Operands}
    {items : List Value} (members : operands.members = .ok items) (subject : Subject) :
    ∃ member, isMember type operands subject = .ok member ∧
      (member = true ↔
        ∃ item ∈ items, ∃ other, type.read item = .ok other ∧ subject.same other = true) := by
  rw [isMember_eq, Operands.subjects, members]
  change ∃ member, (readable type items).map _ = .ok member ∧ _
  cases read : readable type items with
  | error fault => exact (readable_ne_error listable.ne_date items read).elim
  | ok subjects =>
      refine ⟨_, rfl, ?_⟩
      rw [List.any_eq_true]
      constructor
      · rintro ⟨other, member, same⟩
        obtain ⟨item, inItems, readItem⟩ := exists_of_mem_readable read member
        exact ⟨item, inItems, other, readItem, same⟩
      · rintro ⟨item, inItems, other, readItem, same⟩
        exact ⟨other, mem_of_readable read inItems readItem, same⟩

namespace Operator

variable {type : ValueType} (listable : type.IsListable) {operands : Operands}
  {items : List Value} (lists : operands.value.IsSequenceOf items) (candidate : Value)

include listable lists

theorem answers_isIn :
    ∃ result, isIn.Answers type operands candidate result ∧
      (result = true ↔ ∃ item ∈ items, eq.Relates type candidate item true) := by
  have legal := listable.allows (.inr (.inl rfl))
  cases reads : type.reads candidate with
  | false =>
      obtain ⟨issue, refused⟩ := exists_refuse_of_not_reads
        (listable.refusesOnly_read candidate) reads
      refine ⟨false, answers_of_refused legal rfl refused, iff_of_false Bool.false_ne_true ?_⟩
      rintro ⟨item, -, equal⟩
      exact (relates_eq_false_iff listable candidate item).mp
        (relates_eq_of_not_reads listable reads item) equal
  | true =>
      obtain ⟨subject, read⟩ := ValueType.reads_iff.mp reads
      obtain ⟨member, found, decides⟩ :=
        exists_isMember listable (Operands.members_of_isSequenceOf lists) subject
      refine ⟨member, (answers_iff_of_read legal rfl read).mpr ?_, ?_⟩
      · rw [outcome_test_isIn, found]
        exact ⟨_, rfl, matched_ofTest _ _⟩
      · rw [decides]
        simp only [relates_eq_true_iff listable read]

theorem answers_notIn :
    ∃ result, notIn.Answers type operands candidate result ∧
      (result = true ↔ type.reads candidate = true ∧
        ∀ item ∈ items, eq.Relates type candidate item false) := by
  have legal := listable.allows (.inr (.inr rfl))
  cases reads : type.reads candidate with
  | false =>
      obtain ⟨issue, refused⟩ := exists_refuse_of_not_reads
        (listable.refusesOnly_read candidate) reads
      exact ⟨false, answers_of_refused legal rfl refused, by simp⟩
  | true =>
      obtain ⟨subject, read⟩ := ValueType.reads_iff.mp reads
      obtain ⟨member, found, decides⟩ :=
        exists_isMember listable (Operands.members_of_isSequenceOf lists) subject
      refine ⟨!member, (answers_iff_of_read legal rfl read).mpr ?_, ?_⟩
      · rw [outcome_test_notIn, found]
        exact ⟨_, rfl, matched_ofTest _ _⟩
      · rw [Bool.not_eq_true', ← Bool.not_eq_true, decides]
        simp only [relates_eq_false_iff listable, relates_eq_true_iff listable read, not_exists,
          not_and, true_and]

end Operator

/-! ## Lists given as one text -/

/-- An item of a list that is given as one text, with the blanks around it. -/
structure Entry (separator : Char) where
  before : String
  item : String
  after : String
  given : item ≠ ""
  trimmed : Text.trim item = item
  whole : separator ∉ item.toList
  padding : ∀ c ∈ before.toList ++ after.toList, Text.isBlank c = true ∧ c ≠ separator

namespace Entry

variable {separator : Char}

/-- What is written between the separators. -/
def text (entry : Entry separator) : String := entry.before ++ entry.item ++ entry.after

/-- The text of a list. -/
def joined (entries : List (Entry separator)) : String :=
  (String.singleton separator).intercalate (entries.map text)

/-- The items of a list. -/
def items (entries : List (Entry separator)) : List Value :=
  entries.map fun entry => .text entry.item

theorem toList_text (entry : Entry separator) :
    entry.text.toList = entry.before.toList ++ entry.item.toList ++ entry.after.toList := by
  rw [text, String.toList_append, String.toList_append]

theorem separator_not_mem_text (entry : Entry separator) : separator ∉ entry.text.toList := by
  rw [toList_text, List.append_assoc, List.mem_append, List.mem_append]
  rintro (member | member | member)
  · exact (entry.padding separator (List.mem_append_left _ member)).2 rfl
  · exact entry.whole member
  · exact (entry.padding separator (List.mem_append_right _ member)).2 rfl

theorem trimWhile_text (entry : Entry separator) :
    Text.trimWhile Text.isBlank entry.text.toList = entry.item.toList := by
  have trimmed := congrArg String.toList entry.trimmed
  rw [Text.trim, String.toList_ofList] at trimmed
  rw [toList_text, Text.trimWhile_between fun c member => (entry.padding c member).1, trimmed]

/-- Splitting and trimming the text of a list brings its items back. -/
theorem listed_joined (entries : List (Entry separator)) :
    Operands.listed (some (String.singleton separator)) (joined entries) =
      .ok (entries.map item) := by
  rw [listed_of_given String.singleton_ne_empty, joined, String.toList_intercalate,
    String.toList_singleton]
  by_cases given : entries = []
  · rw [given]
    rfl
  · rw [Text.splitFrom_intercalate (by simpa using given)]
    · have trimmed : ((entries.map text).map String.toList).map (Text.trimWhile Text.isBlank) =
          entries.map fun entry => entry.item.toList := by
        simp only [List.map_map, Function.comp_def, trimWhile_text]
      have kept : (entries.map fun entry => entry.item.toList).filter (!·.isEmpty) =
          entries.map fun entry => entry.item.toList := by
        refine List.filter_eq_self.mpr fun part member => ?_
        obtain ⟨entry, -, rfl⟩ := List.mem_map.mp member
        simpa using entry.given
      rw [trimmed, kept, List.map_map]
      simp only [Function.comp_def, String.ofList_toList]
    · simp only [List.map_map, List.forall_mem_map]
      exact fun entry _ => entry.separator_not_mem_text

theorem members_joined (entries : List (Entry separator)) (second : Value) :
    Operands.members ⟨.text (joined entries), second, some (String.singleton separator)⟩ =
      .ok (items entries) := by
  change (Operands.listed _ (joined entries)).map (·.map Value.text) = _
  rw [listed_joined, items, Except.map, List.map_map]
  rfl

end Entry

/-- Operators that look a value up see nothing of an operand but its members. -/
theorem Operator.applyTo_congr_members {operator : Operator} {type : ValueType}
    {left right : Operands} (listing : operator = .isIn ∨ operator = .notIn)
    (same : left.members = right.members) :
    operator.applyTo type left = operator.applyTo type right := by
  refine applyTo_congr (funext fun subject => ?_)
  have found : isMember type left subject = isMember type right subject := by
    rw [isMember, isMember, same]
  rcases listing with rfl | rfl
  · exact (test_list_congr found).1
  · exact (test_list_congr found).2

/-! ## The laws -/

/-- What the operators that look a value up in a list say about a value. -/
structure MembershipLaws (type : ValueType) (candidate : Value) : Prop where
  listed : ∀ operands items, operands.value.IsSequenceOf items →
    ∃ result, Operator.isIn.Answers type operands candidate result ∧
      (result = true ↔ ∃ item ∈ items, item ≠ .null ∧ Operator.eq.Relates type candidate item true)
  unlisted : ∀ operands items, operands.value.IsSequenceOf items →
    ∃ result, Operator.notIn.Answers type operands candidate result ∧
      (result = true ↔ candidate.isPresent = true ∧ type.reads candidate = true ∧
        ∀ item ∈ items, Operator.eq.Relates type candidate item false)
  exclusive : ∀ operands items, operands.value.IsSequenceOf items →
    ¬ (Operator.isIn.Answers type operands candidate true ∧
      Operator.notIn.Answers type operands candidate true)
  /-- The text of a list stands for the list, in the reasons of the outcome too. -/
  joined : ∀ (separator : Char) (entries : List (Entry separator)) (operands : Operands),
    operands.value.IsSequenceOf (Entry.items entries) →
      ∀ (second : Value) (operator : Operator), operator = .isIn ∨ operator = .notIn →
        operator.applyTo type
            ⟨.text (Entry.joined entries), second, some (String.singleton separator)⟩ candidate =
          operator.applyTo type operands candidate

/-- Looking a value up in a list agrees with equality, in whatever form the list is given. -/
theorem membershipLaws {type : ValueType} (listable : type.IsListable) (candidate : Value) :
    MembershipLaws type candidate where
  listed operands items lists := by
    obtain ⟨result, answers, decides⟩ := Operator.answers_isIn listable lists candidate
    refine ⟨result, answers, decides.trans (exists_congr fun item => and_congr_right fun _ => ?_)⟩
    refine iff_and_self.mpr ?_
    rintro equal rfl
    -- An operand that is missing is equal to nothing.
    have unread : type.reads .null = false := rfl
    exact (Operator.relates_eq_false_iff listable candidate .null).mp
      (Operator.relates_of_not_reads rfl (listable.refusesOnly_read candidate)
        (listable.refusesOnly_read .null) (.inr unread)) equal
  unlisted operands items lists := by
    obtain ⟨result, answers, decides⟩ := Operator.answers_notIn listable lists candidate
    refine ⟨result, answers, decides.trans ?_⟩
    rw [iff_and_self]
    rintro ⟨reads, -⟩
    obtain ⟨subject, read⟩ := ValueType.reads_iff.mp reads
    exact Operator.isPresent_of_read read
  exclusive operands items lists := by
    rintro ⟨listed, unlisted⟩
    obtain ⟨isIn, answersIn, decidesIn⟩ := Operator.answers_isIn listable lists candidate
    obtain ⟨notIn, answersNotIn, decidesNotIn⟩ := Operator.answers_notIn listable lists candidate
    obtain ⟨item, member, equal⟩ := decidesIn.mp (answersIn.unique listed)
    have different := (decidesNotIn.mp (answersNotIn.unique unlisted)).2 item member
    exact (Operator.relates_eq_false_iff listable candidate item).mp different equal
  joined separator entries operands lists second operator listing := by
    rw [Operator.applyTo_congr_members listing]
    rw [Entry.members_joined, Operands.members_of_isSequenceOf lists]

/-- Two numbers in a list with semicolons and blanks. -/
def Entry.decimals : List (Entry ';') :=
  have blank : ∀ c ∈ [' '], Text.isBlank c = true ∧ c ≠ ';' :=
    List.forall_mem_singleton.mpr (by decide)
  [⟨"", "2.5", " ", by decide, by decide +kernel, by decide, blank⟩,
    ⟨" ", "1.0", "", by decide, by decide +kernel, by decide, blank⟩]

theorem Entry.joined_decimals : Entry.joined Entry.decimals = "2.5 ; 1.0" := by
  decide +kernel

/-- The number one is in the list that the text gives, and in no list of another number. -/
theorem membershipLaws_decimals :
    Operator.isIn.applyTo .number ⟨.text "2.5 ; 1.0", .null, some ";"⟩ (.int 1) =
        Operator.isIn.applyTo .number ⟨.tuple (Entry.items Entry.decimals), .null, none⟩ (.int 1) ∧
      Operator.isIn.Answers .number ⟨.tuple (Entry.items Entry.decimals), .null, none⟩ (.int 1)
          true ∧
        Operator.notIn.Answers .number ⟨.list [.text "2.5"], .null, none⟩ (.int 1) true := by
  have readsOne : ValueType.number.reads (.text "1.0") = true := by decide +kernel
  have readsOther : ValueType.number.reads (.text "2.5") = true := by decide +kernel
  have equal : Operator.eq.Relates .number (.int 1) (.text "1.0") true :=
    (ValueType.IsOrderedBy.number.relates_eq_iff rfl readsOne).mpr (by decide +kernel)
  have different : Operator.eq.Relates .number (.int 1) (.text "2.5") false :=
    (ValueType.IsOrderedBy.number.relates_eq_iff rfl readsOther).mpr (by decide +kernel)
  refine ⟨?_, ?_, ?_⟩
  · rw [← Entry.joined_decimals]
    exact (membershipLaws .number (.int 1)).joined ';' Entry.decimals _ (.tuple _) .null .isIn
      (.inl rfl)
  · obtain ⟨result, answers, decides⟩ :=
      (membershipLaws .number (.int 1)).listed ⟨.tuple (Entry.items Entry.decimals), .null, none⟩ _
        (.tuple _)
    rwa [decides.mpr ⟨.text "1.0", by simp [Entry.items, Entry.decimals], by simp, equal⟩]
      at answers
  · obtain ⟨result, answers, decides⟩ :=
      (membershipLaws .number (.int 1)).unlisted ⟨.list [.text "2.5"], .null, none⟩ _ (.list _)
    rwa [decides.mpr ⟨rfl, rfl, by simpa using different⟩] at answers

end Rulebook
