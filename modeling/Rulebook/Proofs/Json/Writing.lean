import Rulebook.Proofs.Document.Induction
import Rulebook.Proofs.Json.Reading
import Rulebook.Proofs.Json.Strings

/-!
# Values that are read back

A value without floating-point numbers, whose integers are not too long and whose mappings have no
key twice, is read back from its JSON text.
-/

namespace Rulebook

namespace Value

mutual

/-- Whether a value is made of null, truth values, integers that are not too long, texts, lists and
mappings without repeated keys. -/
def isPlain : Value → Bool
  | null | bool _ | text _ => true
  | int value => !Numeral.isTooLong value
  | list items => arePlain items
  | mapping entries => decide (entries.map Prod.fst).Nodup && entriesArePlain entries
  | absent | float _ | tuple _ | date _ | dateTime _ | bytes _ => false

/-- Whether the elements of a sequence are plain. -/
def arePlain : List Value → Bool
  | [] => true
  | item :: items => isPlain item && arePlain items

/-- Whether the values of a mapping are plain. -/
def entriesArePlain : List (String × Value) → Bool
  | [] => true
  | (_, value) :: entries => isPlain value && entriesArePlain entries

end

theorem arePlain_iff {items : List Value} :
    arePlain items = true ↔ ∀ item ∈ items, item.isPlain = true := by
  induction items with
  | nil => simp [arePlain]
  | cons item items ih => rw [arePlain, Bool.and_eq_true, ih, List.forall_mem_cons]

theorem entriesArePlain_iff {entries : List (String × Value)} :
    entriesArePlain entries = true ↔ ∀ entry ∈ entries, entry.2.isPlain = true := by
  induction entries with
  | nil => simp [entriesArePlain]
  | cons entry entries ih => rw [entriesArePlain, Bool.and_eq_true, ih, List.forall_mem_cons]

end Value

namespace Json

/-- Whether a text that comes after a value cannot go on with it: it is empty, or starts with a
comma or a closing bracket. -/
def Closes (rest : List Char) : Prop :=
  ∀ c ∈ rest.head?, c = ',' ∨ c = ']' ∨ c = '\x7d'

theorem Closes.skipSpace_eq {rest : List Char} (closes : Closes rest) : skipSpace rest = rest := by
  cases rest with
  | nil => rfl
  | cons c rest => rcases closes c rfl with rfl | rfl | rfl <;> rfl

/-- Whether characters stand for a value: they are read as it up to their end, they have as many
characters as steps are needed, and they start like a value does. -/
structure IsForm (characters : List Char) (value : Value) : Prop where
  opens : ∃ c rest, characters = c :: rest ∧ isSpace c = false ∧ c ≠ ']' ∧ c ≠ '\uFEFF'
  reads : ∀ steps rest, Closes rest → characters.length ≤ steps →
    readValue steps (characters ++ rest) = .ok (value, rest)

theorem exists_step {steps bound : Nat} (positive : 0 < bound) (enough : bound ≤ steps) :
    ∃ fewer, steps = fewer + 1 :=
  Nat.exists_eq_add_of_le' (Nat.le_trans positive enough)

/-! ## Words, texts and integers -/

theorem isForm_null : IsForm "null".toList .null where
  opens := ⟨'n', "ull".toList, rfl, rfl, by decide, by decide⟩
  reads := by
    intro steps rest _ enough
    obtain ⟨steps, rfl⟩ := exists_step (by decide) enough
    rfl

theorem isForm_bool (value : Bool) :
    IsForm (if value then "true".toList else "false".toList) (.bool value) := by
  cases value with
  | true =>
      refine ⟨⟨'t', "rue".toList, rfl, rfl, by decide, by decide⟩, fun steps rest _ enough => ?_⟩
      obtain ⟨steps, rfl⟩ := exists_step (by decide) enough
      rfl
  | false =>
      refine ⟨⟨'f', "alse".toList, rfl, rfl, by decide, by decide⟩, fun steps rest _ enough => ?_⟩
      obtain ⟨steps, rfl⟩ := exists_step (by decide) enough
      rfl

theorem isForm_text (text : String) : IsForm (writeText text) (.text text) where
  opens := ⟨'"', _, rfl, rfl, by decide, by decide⟩
  reads := by
    intro steps rest _ enough
    obtain ⟨steps, rfl⟩ := exists_step (by simp [writeText]) enough
    have read := readText_writeText text rest
    rw [writeText, List.cons_append] at read ⊢
    rw [List.cons_append] at read
    rw [List.cons_append, readValue, read]
    rfl

theorem wholeOf_toDigits (number : Nat) {rest : List Char} (closes : Closes rest) :
    wholeOf (Nat.toDigits 10 number ++ rest) = Nat.toDigits 10 number := by
  have noDigit : rest.takeWhile Char.isDigit = [] := by
    cases rest with
    | nil => rfl
    | cons c rest => rcases closes c rfl with rfl | rfl | rfl <;> rfl
  have all : ∀ c ∈ Nat.toDigits 10 number, c.isDigit = true :=
    fun _ => Text.isDigit_of_mem_toDigits
  obtain ⟨c, digits, form, -⟩ := Text.exists_toDigits number
  rw [wholeOf.eq_def]
  split
  · rename_i zero
    rw [form, List.cons_append] at zero
    cases zero
    rw [form, Text.toDigits_eq_of_head form]
  · rw [List.takeWhile_append_of_pos all, noDigit, List.append_nil]

theorem readNumber_toDigits {number : Nat}
    (short : (Nat.toDigits 10 number).length ≤ Numeral.digitLimit) (negative : Bool)
    (start : List Char) {rest : List Char} (closes : Closes rest) :
    readNumber negative start (Nat.toDigits 10 number ++ rest) =
      .ok (.int (if negative then -(number : Int) else number), rest) := by
  have noFraction : fractionOf rest = [] := by
    cases rest with
    | nil => rfl
    | cons c rest => rcases closes c rfl with rfl | rfl | rfl <;> rfl
  have noExponent : exponentOf rest = none := by
    cases rest with
    | nil => rfl
    | cons c rest => rcases closes c rfl with rfl | rfl | rfl <;> rfl
  have some_digit : (Nat.toDigits 10 number).isEmpty = false := by
    simp [Nat.toDigits_ne_nil]
  rw [readNumber, wholeOf_toDigits number closes]
  simp only [some_digit, List.drop_left, noFraction, noExponent, Nat.not_lt.mpr short,
    Text.decimalNumber_toDigits, List.isEmpty_nil, if_true, if_false, Bool.false_eq_true]

theorem isForm_int {number : Int} (short : Numeral.isTooLong number = false) :
    IsForm (Numeral.integerText number).toList (.int number) := by
  have few := Numeral.length_toDigits_le short
  obtain ⟨c, digits, form, digit⟩ := Text.exists_toDigits number.natAbs
  have reads := readNumber_toDigits few
  rw [form] at reads
  rw [Numeral.toList_integerText, form]
  split
  · rename_i negative
    refine ⟨⟨'-', c :: digits, rfl, rfl, by decide, by decide⟩, fun steps rest closes enough => ?_⟩
    obtain ⟨steps, rfl⟩ := exists_step (Nat.succ_pos _) enough
    have value : -(number.natAbs : Int) = number := by omega
    rw [List.cons_append, List.cons_append, (readValue_of_isDigit digit steps _).2,
      ← List.cons_append, reads true _ closes, if_pos rfl, value]
  · rename_i positive
    refine ⟨⟨c, digits, rfl, ?_, ne_of_isDigit digit rfl, ne_of_isDigit digit rfl⟩,
      fun steps rest closes enough => ?_⟩
    · simp [isSpace, ne_of_isDigit digit]
    · obtain ⟨steps, rfl⟩ := exists_step (Nat.succ_pos _) enough
      have value : (number.natAbs : Int) = number := by omega
      rw [List.cons_append, (readValue_of_isDigit digit steps _).1, ← List.cons_append,
        reads false _ closes, if_neg Bool.false_ne_true, value]

/-! ## Sequences and mappings -/

theorem IsForm.skipSpace_eq {characters : List Char} {value : Value}
    (form : IsForm characters value) (rest : List Char) :
    skipSpace (characters ++ rest) = characters ++ rest := by
  obtain ⟨c, others, rfl, noSpace, -⟩ := form.opens
  rw [List.cons_append, skipSpace, List.dropWhile_cons_of_neg (by simp [noSpace])]

theorem exists_intercalate_cons (part : List Char) (parts : List (List Char)) :
    ∃ rest, [','].intercalate (part :: parts) = part ++ rest := by
  cases parts with
  | nil => exact ⟨[], by rw [List.intercalate_singleton, List.append_nil]⟩
  | cons next parts => exact ⟨_, by rw [List.intercalate_cons_cons, List.append_assoc]⟩

theorem intercalate_cons_cons_append (part next : List Char) (parts : List (List Char))
    (rest : List Char) :
    [','].intercalate (part :: next :: parts) ++ rest =
      part ++ ',' :: ([','].intercalate (next :: parts) ++ rest) := by
  rw [List.intercalate_cons_cons, List.append_assoc, List.append_assoc, List.singleton_append]

theorem closes_cons {c : Char} (closing : c = ',' ∨ c = ']' ∨ c = '\x7d') (rest : List Char) :
    Closes (c :: rest) := by
  rintro _ ⟨⟩
  exact closing

/-- The elements of an array are read up to its closing bracket. -/
theorem readItems_intercalate {part : List Char} {parts : List (List Char)} {item : Value}
    {items : List Value} (first : IsForm part item) (others : List.Forall₂ IsForm parts items)
    {steps : Nat} (enough : ([','].intercalate (part :: parts)).length < steps)
    (rest : List Char) :
    readItems steps ([','].intercalate (part :: parts) ++ ']' :: rest) =
      .ok (item :: items, rest) := by
  induction others generalizing part item steps with
  | nil =>
      obtain ⟨steps, rfl⟩ := exists_step (Nat.succ_pos _) enough
      have closes : Closes (']' :: rest) := closes_cons (by simp) rest
      rw [List.intercalate_singleton] at enough ⊢
      rw [readItems, first.reads steps _ closes (Nat.le_of_lt_succ enough)]
      simp only [bind, Except.bind, closes.skipSpace_eq]
      rfl
  | @cons next nextItem parts items here _ ih =>
      obtain ⟨steps, rfl⟩ := exists_step (Nat.succ_pos _) enough
      rw [List.intercalate_cons_cons, List.length_append, List.length_append,
        List.length_singleton] at enough
      have later : readItems steps ([','].intercalate (next :: parts) ++ ']' :: rest) =
          .ok (nextItem :: items, rest) := ih here (by omega)
      obtain ⟨behind, form⟩ := exists_intercalate_cons next parts
      have noSpace := here.skipSpace_eq (behind ++ ']' :: rest)
      rw [← List.append_assoc, ← form] at noSpace
      have closes : Closes (',' :: ([','].intercalate (next :: parts) ++ ']' :: rest)) :=
        closes_cons (by simp) _
      rw [intercalate_cons_cons_append, readItems, first.reads steps _ closes (by omega)]
      simp only [bind, Except.bind, closes.skipSpace_eq, noSpace, later]
      rfl

theorem isForm_list {parts : List (List Char)} {items : List Value}
    (each : List.Forall₂ IsForm parts items) :
    IsForm ('[' :: [','].intercalate parts ++ [']']) (.list items) where
  opens := ⟨'[', _, rfl, rfl, by decide, by decide⟩
  reads := by
    intro steps rest _ enough
    obtain ⟨steps, rfl⟩ := exists_step (by simp) enough
    rw [List.cons_append, List.length_cons, List.length_append, List.length_singleton] at enough
    rw [List.cons_append, List.cons_append, List.append_assoc, List.singleton_append]
    cases each with
    | nil => rfl
    | @cons part item parts items first others =>
        have inner : readItems steps ([','].intercalate (part :: parts) ++ ']' :: rest) =
            .ok (item :: items, rest) :=
          readItems_intercalate first others (by omega) rest
        obtain ⟨behind, form⟩ := exists_intercalate_cons part parts
        have noSpace := first.skipSpace_eq (behind ++ ']' :: rest)
        rw [← List.append_assoc, ← form] at noSpace
        rw [readValue, noSpace]
        split
        · rename_i closed
          obtain ⟨c, others, rfl, -, noBracket, -⟩ := first.opens
          rw [form, List.cons_append, List.cons_append] at closed
          cases closed
          exact (noBracket rfl).elim
        · rw [inner]
          rfl

/-- Whether characters stand for a member of an object. -/
def IsMember (characters : List Char) (member : String × Value) : Prop :=
  ∃ form, characters = writeText member.1 ++ ':' :: form ∧ IsForm form member.2

/-- The key of a member is read, then the colon, then the value. -/
theorem IsMember.reads {characters : List Char} {member : String × Value}
    (form : IsMember characters member) {steps : Nat} (enough : characters.length ≤ steps)
    {rest : List Char} (closes : Closes rest) :
    ∃ behind colon start, characters ++ rest = '"' :: behind ∧
      readText ('"' :: behind) = .ok (member.1, colon) ∧ passColon colon = .ok start ∧
        readValue steps start = .ok (member.2, rest) := by
  obtain ⟨inner, rfl, value⟩ := form
  have read := readText_writeText member.1 (':' :: (inner ++ rest))
  rw [List.length_append, List.length_cons] at enough
  refine ⟨_, _, inner ++ rest, ?_, read, ?_, value.reads steps rest closes (by omega)⟩
  · rw [List.append_assoc, writeText, List.cons_append]
    rfl
  · rw [passColon, skipSpace, List.dropWhile_cons_of_neg (by decide)]
    exact congrArg Except.ok (value.skipSpace_eq rest)

theorem IsMember.skipSpace_eq {characters : List Char} {member : String × Value}
    (form : IsMember characters member) (rest : List Char) :
    skipSpace (characters ++ rest) = characters ++ rest := by
  obtain ⟨inner, rfl, -⟩ := form
  rw [writeText, List.cons_append, List.cons_append, List.cons_append, skipSpace,
    List.dropWhile_cons_of_neg (by decide)]

/-- The members of an object are read up to its closing brace. -/
theorem readMembers_intercalate {part : List Char} {parts : List (List Char)}
    {member : String × Value} {members : List (String × Value)} (first : IsMember part member)
    (others : List.Forall₂ IsMember parts members) {steps : Nat}
    (enough : ([','].intercalate (part :: parts)).length < steps) (rest : List Char) :
    readMembers steps ([','].intercalate (part :: parts) ++ '\x7d' :: rest) =
      .ok (member :: members, rest) := by
  induction others generalizing part member steps with
  | nil =>
      obtain ⟨steps, rfl⟩ := exists_step (Nat.succ_pos _) enough
      rw [List.intercalate_singleton] at enough ⊢
      have closes : Closes ('\x7d' :: rest) := closes_cons (by simp) rest
      obtain ⟨behind, colon, start, shape, key, passed, value⟩ :=
        first.reads (Nat.le_of_lt_succ enough) closes
      rw [shape, readMembers]
      simp only [bind, Except.bind, key, passed, value, closes.skipSpace_eq]
      rfl
  | @cons next nextMember parts members here _ ih =>
      obtain ⟨steps, rfl⟩ := exists_step (Nat.succ_pos _) enough
      rw [List.intercalate_cons_cons, List.length_append, List.length_append,
        List.length_singleton] at enough
      have later : readMembers steps ([','].intercalate (next :: parts) ++ '\x7d' :: rest) =
          .ok (nextMember :: members, rest) := ih here (by omega)
      obtain ⟨more, form⟩ := exists_intercalate_cons next parts
      have noSpace := here.skipSpace_eq (more ++ '\x7d' :: rest)
      rw [← List.append_assoc, ← form] at noSpace
      have closes : Closes (',' :: ([','].intercalate (next :: parts) ++ '\x7d' :: rest)) :=
        closes_cons (by simp) _
      have few : part.length ≤ steps := by omega
      obtain ⟨behind, colon, start, shape, key, passed, value⟩ := first.reads few closes
      rw [intercalate_cons_cons_append, shape, readMembers]
      simp only [bind, Except.bind, key, passed, value, closes.skipSpace_eq, noSpace, later]
      rfl

/-- A key that is not there yet goes to the end. -/
theorem setEntry_of_notMem {key : String} {value : Value} {entries : List (String × Value)}
    (new : key ∉ entries.map Prod.fst) : setEntry key value entries = entries ++ [(key, value)] := by
  induction entries with
  | nil => rfl
  | cons entry entries ih =>
      obtain ⟨other, old⟩ := entry
      rw [List.map_cons, List.mem_cons, not_or] at new
      rw [setEntry, if_neg (Ne.symm new.1), ih new.2, List.cons_append]

/-- Members whose keys differ make up the mapping. -/
theorem foldl_setEntry {members entries : List (String × Value)}
    (distinct : ((entries ++ members).map Prod.fst).Nodup) :
    members.foldl (fun entries (key, value) => setEntry key value entries) entries =
      entries ++ members := by
  induction members generalizing entries with
  | nil => rw [List.foldl_nil, List.append_nil]
  | cons member members ih =>
      obtain ⟨key, value⟩ := member
      have new : key ∉ entries.map Prod.fst := by
        rw [List.map_append, List.nodup_append] at distinct
        exact fun among => distinct.2.2 key among key List.mem_cons_self rfl
      rw [List.foldl_cons]
      dsimp only
      rw [setEntry_of_notMem new, ih, List.append_assoc, List.singleton_append]
      rwa [List.append_assoc, List.singleton_append]

theorem isForm_mapping {parts : List (List Char)} {entries : List (String × Value)}
    (each : List.Forall₂ IsMember parts entries) (distinct : (entries.map Prod.fst).Nodup) :
    IsForm ('\x7b' :: [','].intercalate parts ++ ['\x7d']) (.mapping entries) where
  opens := ⟨'\x7b', _, rfl, rfl, by decide, by decide⟩
  reads := by
    intro steps rest _ enough
    obtain ⟨steps, rfl⟩ := exists_step (by simp) enough
    rw [List.cons_append, List.length_cons, List.length_append, List.length_singleton] at enough
    rw [List.cons_append, List.cons_append, List.append_assoc, List.singleton_append]
    cases each with
    | nil => rfl
    | @cons part member parts members first others =>
        have inner : readMembers steps ([','].intercalate (part :: parts) ++ '\x7d' :: rest) =
            .ok (member :: members, rest) :=
          readMembers_intercalate first others (by omega) rest
        obtain ⟨behind, form⟩ := exists_intercalate_cons part parts
        have noSpace := first.skipSpace_eq (behind ++ '\x7d' :: rest)
        rw [← List.append_assoc, ← form] at noSpace
        rw [readValue, noSpace]
        split
        · rename_i closed
          obtain ⟨value, rfl, -⟩ := first
          rw [form, writeText, List.cons_append, List.cons_append, List.cons_append] at closed
          cases closed
        · rw [inner]
          change Except.ok (mappingOf (member :: members), rest) = _
          rw [mappingOf, foldl_setEntry distinct, List.nil_append]

/-! ## Written values -/

theorem exists_writeItems {items : List Value}
    (each : ∀ item ∈ items, ∃ characters, write item = .ok characters ∧ IsForm characters item) :
    ∃ parts, writeItems items = .ok parts ∧ List.Forall₂ IsForm parts items := by
  induction items with
  | nil => exact ⟨[], rfl, .nil⟩
  | cons item items ih =>
      obtain ⟨here, later⟩ := List.forall_mem_cons.mp each
      obtain ⟨part, written, form⟩ := here
      obtain ⟨parts, others, forms⟩ := ih later
      refine ⟨part :: parts, ?_, .cons form forms⟩
      rw [writeItems, written, others]
      rfl

theorem exists_writeEntries {entries : List (String × Value)}
    (each : ∀ entry ∈ entries, ∃ characters, write entry.2 = .ok characters ∧
      IsForm characters entry.2) :
    ∃ parts, writeEntries entries = .ok parts ∧ List.Forall₂ IsMember parts entries := by
  induction entries with
  | nil => exact ⟨[], rfl, .nil⟩
  | cons entry entries ih =>
      obtain ⟨here, later⟩ := List.forall_mem_cons.mp each
      obtain ⟨part, written, form⟩ := here
      obtain ⟨parts, others, forms⟩ := ih later
      refine ⟨(writeText entry.1 ++ ':' :: part) :: parts, ?_, .cons ⟨part, rfl, form⟩ forms⟩
      rw [writeEntries, written, others]
      rfl

/-- Every plain value has a JSON form, which is read as the value. -/
theorem exists_write_of_isPlain {value : Value} (plain : value.isPlain = true) :
    ∃ characters, write value = .ok characters ∧ IsForm characters value := by
  induction value with
  | null => exact ⟨_, by rw [write], isForm_null⟩
  | bool value => exact ⟨_, by rw [write], isForm_bool value⟩
  | int value =>
      have short : Numeral.isTooLong value = false := by
        simpa [Value.isPlain] using plain
      refine ⟨_, ?_, isForm_int short⟩
      rw [write, Numeral.integerText?, short]
      rfl
  | text value => exact ⟨_, by rw [write], isForm_text value⟩
  | list items ih =>
      rw [Value.isPlain, Value.arePlain_iff] at plain
      obtain ⟨parts, written, forms⟩ := exists_writeItems fun item member =>
        ih item member (plain item member)
      refine ⟨_, ?_, isForm_list forms⟩
      rw [write, written]
      rfl
  | mapping entries ih =>
      rw [Value.isPlain, Bool.and_eq_true, decide_eq_true_eq, Value.entriesArePlain_iff] at plain
      obtain ⟨distinct, plain⟩ := plain
      obtain ⟨parts, written, forms⟩ := exists_writeEntries fun entry member =>
        ih entry member (plain entry member)
      refine ⟨_, ?_, isForm_mapping forms distinct⟩
      rw [write, written]
      rfl
  | _ => cases plain

/-- The text of a plain value is read as the value. -/
theorem exists_text_of_isPlain {value : Value} (plain : value.isPlain = true) :
    ∃ characters, text value = .ok characters ∧ read characters.toList = .ok value := by
  obtain ⟨characters, written, form⟩ := exists_write_of_isPlain plain
  refine ⟨String.ofList characters, ?_, ?_⟩
  · rw [text, written]
    rfl
  · obtain ⟨c, rest, same, noSpace, -, noMark⟩ := form.opens
    have nothing : Closes [] := nofun
    have first : characters.head? ≠ some '\uFEFF' := by
      rw [same]
      simpa using noMark
    have start : skipSpace characters = characters := by
      rw [same, skipSpace, List.dropWhile_cons_of_neg (by simp [noSpace])]
    have found := form.reads (2 * characters.length + 1) [] nothing (by omega)
    rw [List.append_nil] at found
    rw [String.toList_ofList, read, if_neg first, start]
    dsimp only
    rw [found]
    rfl

end Json

end Rulebook
