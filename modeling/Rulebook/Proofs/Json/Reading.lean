import Mathlib.Data.List.TakeWhile
import Rulebook.Json.Reader
import Rulebook.Proofs.Document.Showable
import Rulebook.Proofs.Number.Numeral
import Rulebook.Proofs.Results

/-!
# Values read from JSON text

What is known of every value that is read follows from what is known of texts, words and numbers,
and of the sequences and mappings that are made of values.  No integer that is read has too many
digits.
-/

namespace Rulebook

namespace Json

theorem forall_mem_setEntry (holds : Value → Prop) {entries : List (String × Value)}
    (each : ∀ entry ∈ entries, holds entry.2) (key : String) {value : Value}
    (new : holds value) : ∀ entry ∈ setEntry key value entries, holds entry.2 := by
  induction entries with
  | nil => exact List.forall_mem_singleton.mpr new
  | cons first entries ih =>
      obtain ⟨other, old⟩ := first
      obtain ⟨here, later⟩ := List.forall_mem_cons.mp each
      rw [setEntry]
      split
      · exact List.forall_mem_cons.mpr ⟨new, later⟩
      · exact List.forall_mem_cons.mpr ⟨here, ih later⟩

theorem forall_mem_foldl_setEntry {holds : Value → Prop} {members : List (String × Value)}
    (each : ∀ member ∈ members, holds member.2) {entries : List (String × Value)}
    (before : ∀ entry ∈ entries, holds entry.2) :
    ∀ entry ∈ members.foldl (fun entries (key, value) => setEntry key value entries) entries,
      holds entry.2 := by
  induction members generalizing entries with
  | nil => exact before
  | cons member members ih =>
      obtain ⟨here, later⟩ := List.forall_mem_cons.mp each
      exact ih later (forall_mem_setEntry holds before member.1 here)

section Induction

variable {motive : Value → Prop} (text : ∀ characters, motive (.text characters))
  (scalar : ∀ start value rest, readScalar start = .ok (value, rest) → motive value)
  (list : ∀ items, (∀ item ∈ items, motive item) → motive (.list items))
  (mapping : ∀ entries, (∀ entry ∈ entries, motive entry.2) → motive (.mapping entries))

include text scalar list mapping

/-- Values, elements and members that are read in at most so many steps. -/
theorem read_steps_induction (steps : Nat) :
    (∀ start value rest, readValue steps start = .ok (value, rest) → motive value) ∧
      (∀ start items rest, readItems steps start = .ok (items, rest) →
        ∀ item ∈ items, motive item) ∧
        ∀ start members rest, readMembers steps start = .ok (members, rest) →
          ∀ member ∈ members, motive member.2 := by
  -- The three readers call each other with one step less, so they share one induction.
  induction steps with
  | zero => exact ⟨nofun, nofun, nofun⟩
  | succ steps ih =>
      obtain ⟨values, elements, entries⟩ := ih
      refine ⟨fun start value rest found => ?_, fun start items rest found => ?_,
        fun start members rest found => ?_⟩
      · rw [readValue.eq_def] at found
        dsimp only at found
        split at found
        · obtain ⟨⟨characters, behind⟩, -, same⟩ := Except.bind_eq_ok.mp found
          cases same
          exact text characters
        · split at found
          · cases found
            exact list [] (List.forall_mem_nil _)
          · obtain ⟨⟨items, behind⟩, inner, same⟩ := Except.bind_eq_ok.mp found
            cases same
            exact list items (elements _ _ _ inner)
        · split at found
          · cases found
            exact mapping [] (List.forall_mem_nil _)
          · obtain ⟨⟨members, behind⟩, inner, same⟩ := Except.bind_eq_ok.mp found
            cases same
            exact mapping _
              (forall_mem_foldl_setEntry (entries _ _ _ inner) (List.forall_mem_nil _))
        · exact scalar _ _ _ found
      · rw [readItems] at found
        obtain ⟨⟨item, behind⟩, first, found⟩ := Except.bind_eq_ok.mp found
        have here := values _ _ _ first
        dsimp only at found
        split at found
        · cases found
          exact List.forall_mem_singleton.mpr here
        · obtain ⟨⟨others, behind⟩, later, same⟩ := Except.bind_eq_ok.mp found
          cases same
          exact List.forall_mem_cons.mpr ⟨here, elements _ _ _ later⟩
        · cases found
      · rw [readMembers.eq_def] at found
        dsimp only at found
        split at found
        · obtain ⟨⟨key, behind⟩, -, found⟩ := Except.bind_eq_ok.mp found
          obtain ⟨behind, -, found⟩ := Except.bind_eq_ok.mp found
          obtain ⟨⟨value, behind⟩, first, found⟩ := Except.bind_eq_ok.mp found
          have here := values _ _ _ first
          dsimp only at found
          split at found
          · cases found
            exact List.forall_mem_singleton.mpr here
          · obtain ⟨⟨others, behind⟩, later, same⟩ := Except.bind_eq_ok.mp found
            cases same
            exact List.forall_mem_cons.mpr ⟨here, entries _ _ _ later⟩
          · cases found
        · cases found

/-- A value that is read has a property when texts, words and numbers have it and it passes from
the parts of a sequence or a mapping to the whole. -/
theorem read_induction {characters : List Char} {value : Value}
    (found : read characters = .ok value) : motive value := by
  rw [read] at found
  split at found
  · cases found
  · obtain ⟨⟨inner, rest⟩, taken, found⟩ := Except.bind_eq_ok.mp found
    dsimp only at found
    split at found
    · cases found
      exact (read_steps_induction text scalar list mapping _).1 _ _ _ taken
    · cases found

end Induction

theorem isShowable_of_readNumber {negative : Bool} {start characters rest : List Char}
    {value : Value} (found : readNumber negative start characters = .ok (value, rest)) :
    value.isShowable = true := by
  rw [readNumber] at found
  dsimp only at found
  split at found
  · cases found
  · split at found
    · split at found
      · cases found
      · rename_i short
        cases found
        have bound := Text.decimalNumber_lt (wholeOf characters)
        rw [Value.isShowable, Numeral.isTooLong_eq_false _ (Nat.le_of_not_lt short)]
        · rfl
        · cases negative <;> simpa using bound
    · cases found
      rfl

theorem isShowable_of_readScalar {start rest : List Char} {value : Value}
    (found : readScalar start = .ok (value, rest)) : value.isShowable = true := by
  rw [readScalar.eq_def] at found
  split at found
  · rename_i result word
    cases found
    obtain ⟨⟨name, known⟩, among, here⟩ := List.exists_of_findSome?_eq_some word
    dsimp only at here
    split at here
    · cases here
      revert among
      simp only [words, List.mem_cons, Prod.mk.injEq, List.not_mem_nil, or_false]
      rintro (⟨-, rfl⟩ | ⟨-, rfl⟩ | ⟨-, rfl⟩ | ⟨-, rfl⟩ | ⟨-, rfl⟩ | ⟨-, rfl⟩) <;> rfl
    · cases here
  · split at found <;> exact isShowable_of_readNumber found

/-- Every value that is read can be shown. -/
theorem isShowable_of_read {characters : List Char} {value : Value}
    (found : read characters = .ok value) : value.isShowable = true := by
  refine read_induction (motive := fun value => value.isShowable = true) (fun _ => rfl)
    (fun _ _ _ => isShowable_of_readScalar) (fun items each => ?_) (fun entries each => ?_) found
  · rw [Value.isShowable]
    exact Value.areShowable_iff.mpr each
  · rw [Value.isShowable]
    exact Value.entriesAreShowable_iff.mpr each

/-! ## Numerals -/

section Digits

variable {c : Char} (digit : c.isDigit = true)

include digit

theorem skipSpace_of_isDigit (rest : List Char) : skipSpace (c :: rest) = c :: rest := by
  rw [skipSpace, List.dropWhile_cons_of_neg]
  simp [isSpace, ne_of_isDigit digit]

/-- No word starts with a digit, also behind a minus sign. -/
theorem word?_of_isDigit (rest : List Char) :
    word? (c :: rest) = none ∧ word? ('-' :: c :: rest) = none := by
  have other {d : Char} (noDigit : d.isDigit = false) : d ≠ c := (ne_of_isDigit digit noDigit).symm
  constructor <;> simp [word?, words, List.findSome?, other]

theorem readValue_of_isDigit (steps : Nat) (rest : List Char) :
    readValue (steps + 1) (c :: rest) = readNumber false (c :: rest) (c :: rest) ∧
      readValue (steps + 1) ('-' :: c :: rest) = readNumber true ('-' :: c :: rest) (c :: rest) := by
  obtain ⟨noWord, noSignedWord⟩ := word?_of_isDigit digit rest
  constructor
  · rw [readValue, readScalar.eq_def, noWord]
    · dsimp only
      split
      · rename_i same
        cases same
        exact (ne_of_isDigit digit rfl rfl).elim
      · rfl
    · exact fun _ same => ne_of_isDigit digit rfl (List.cons.inj same).1
    · exact fun _ same => ne_of_isDigit digit rfl (List.cons.inj same).1
    · exact fun _ same => ne_of_isDigit digit rfl (List.cons.inj same).1
  · rw [readValue, readScalar.eq_def, noSignedWord] <;> simp

end Digits

/-- A numeral of too many digits is not read. -/
theorem read_of_isDigit {digits : List Char} (all : ∀ c ∈ digits, c.isDigit = true)
    (first : digits.head? ≠ some '0') (many : Numeral.digitLimit < digits.length) :
    read digits = .error (.numeralTooLong digits.length) := by
  cases digits with
  | nil => cases many
  | cons c digits =>
      have digit := all c List.mem_cons_self
      have whole : wholeOf (c :: digits) = c :: digits := by
        rw [wholeOf]
        · exact List.takeWhile_eq_self_iff.mpr all
        · rintro rest same
          cases same
          exact first rfl
      have number : readNumber false (c :: digits) (c :: digits) =
          .error (.numeralTooLong (c :: digits).length) := by
        simp only [readNumber, whole, List.drop_length, fractionOf, List.isEmpty_nil, if_true,
          exponentOf, many]
        exact if_neg (by simp)
      have noMark : (c :: digits).head? ≠ some '\uFEFF' := by
        simpa using ne_of_isDigit digit rfl
      rw [read, if_neg noMark, skipSpace_of_isDigit digit]
      dsimp only
      rw [(readValue_of_isDigit digit _ _).1, number]
      rfl

end Json

end Rulebook
