import Rulebook.Number.Numeral

/-!
# Integers as decimal text

The number that a text of digits stands for has no more digits than the text.  The text of an
integer that is not too long is a sign, if any, and digits without a leading zero, which stand for
the integer.
-/

namespace Rulebook

theorem ne_of_isDigit {c other : Char} (digit : c.isDigit = true)
    (different : other.isDigit = false) : c ≠ other := by
  rintro rfl
  rw [digit] at different
  cases different

namespace Text

theorem decimalValue?_le {c : Char} {value : Nat} (found : decimalValue? c = some value) :
    value ≤ 9 := by
  obtain ⟨first, -, here⟩ := List.exists_of_findSome?_eq_some found
  split at here
  · rename_i between
    cases here
    simp only [Bool.and_eq_true, decide_eq_true_eq] at between
    omega
  · cases here

/-- A number has no more digits than the text that it is read from. -/
theorem decimalNumber_lt (digits : List Char) :
    decimalNumber digits < Nat.pow 10 digits.length := by
  suffices bound : ∀ start : Nat,
      digits.foldl (fun value c => 10 * value + (decimalValue? c).getD 0) start <
        (start + 1) * Nat.pow 10 digits.length by
    rw [decimalNumber]
    simpa only [Nat.zero_add, Nat.one_mul] using bound 0
  induction digits with
  | nil => simp
  | cons c digits ih =>
      intro start
      have digit : (decimalValue? c).getD 0 ≤ 9 := by
        cases found : decimalValue? c with
        | none => simp
        | some value => exact decimalValue?_le found
      calc
        _ < (10 * start + (decimalValue? c).getD 0 + 1) * Nat.pow 10 digits.length := ih _
        _ ≤ (10 * (start + 1)) * Nat.pow 10 digits.length := by
          refine Nat.mul_le_mul_right _ ?_
          omega
        _ = (start + 1) * (Nat.pow 10 digits.length * 10) := by
          rw [Nat.mul_comm 10, Nat.mul_assoc, Nat.mul_comm 10]

theorem decimalValue?_of_isDigit {c : Char} (digit : c.isDigit = true) :
    decimalValue? c = some (c.toNat - '0'.toNat) := by
  obtain ⟨low, high⟩ := Char.isDigit_iff_toNat.mp digit
  change 48 ≤ c.toNat at low
  change c.toNat ≤ 57 at high
  rw [decimalValue?, decimalZeros, List.findSome?_cons]
  simp [low, high]

/-- ASCII digits stand for the usual number. -/
theorem decimalNumber_eq_ofDigitChars {digits : List Char}
    (all : ∀ c ∈ digits, c.isDigit = true) :
    decimalNumber digits = Nat.ofDigitChars 10 digits 0 := by
  suffices same : ∀ start : Nat,
      digits.foldl (fun value c => 10 * value + (decimalValue? c).getD 0) start =
        digits.foldl (fun value c => 10 * value + (c.toNat - '0'.toNat)) start from same 0
  induction digits with
  | nil => exact fun _ => rfl
  | cons c digits ih =>
      intro start
      obtain ⟨here, later⟩ := List.forall_mem_cons.mp all
      rw [List.foldl_cons, List.foldl_cons, decimalValue?_of_isDigit here, ih later]
      rfl

theorem isDigit_of_mem_toDigits {number : Nat} {c : Char} (among : c ∈ Nat.toDigits 10 number) :
    c.isDigit = true :=
  Nat.isDigit_of_mem_toDigits (by decide) (by decide) among

theorem decimalNumber_toDigits (number : Nat) :
    decimalNumber (Nat.toDigits 10 number) = number := by
  rw [decimalNumber_eq_ofDigitChars fun _ => isDigit_of_mem_toDigits,
    Nat.ofDigitChars_toDigits (by decide) (by decide)]

theorem exists_toDigits (number : Nat) :
    ∃ c digits, Nat.toDigits 10 number = c :: digits ∧ c.isDigit = true := by
  cases form : Nat.toDigits 10 number with
  | nil => exact (Nat.toDigits_ne_nil form).elim
  | cons c digits =>
      have among : c ∈ Nat.toDigits 10 number := form ▸ List.mem_cons_self
      exact ⟨c, digits, rfl, isDigit_of_mem_toDigits among⟩

/-- Only zero has a leading zero. -/
theorem toDigits_eq_of_head {number : Nat} {rest : List Char}
    (zero : Nat.toDigits 10 number = '0' :: rest) : rest = [] := by
  have value := decimalNumber_toDigits number
  have short := decimalNumber_lt rest
  rw [zero] at value
  change decimalNumber rest = number at value
  rw [value] at short
  cases rest with
  | nil => rfl
  | cons c rest =>
      have few := (Nat.length_toDigits_le_iff (by decide) (Nat.succ_pos _)).mpr short
      rw [zero, List.length_cons, List.length_cons] at few
      omega

end Text

namespace Numeral

/-- A number of few enough digits is not too long. -/
theorem isTooLong_eq_false {number : Int} {digits : Nat}
    (bound : number.natAbs < Nat.pow 10 digits) (few : digits ≤ digitLimit) :
    isTooLong number = false := by
  rw [isTooLong]
  generalize digitLimit = limit at few ⊢
  have larger : Nat.pow 10 digits ≤ Nat.pow 10 limit := Nat.pow_le_pow_right (by decide) few
  exact decide_eq_false (Nat.not_le_of_lt (Nat.lt_of_lt_of_le bound larger))

/-- Counts below one that is not too long are not too long. -/
theorem isTooLong_of_le {count larger : Nat} (few : count ≤ larger)
    (short : isTooLong larger = false) : isTooLong count = false := by
  rw [isTooLong, decide_eq_false_iff_not, Nat.not_le, Int.natAbs_natCast] at short ⊢
  exact Nat.lt_of_le_of_lt few short

/-- A number that is not too long has few enough digits. -/
theorem length_toDigits_le {number : Int} (short : isTooLong number = false) :
    (Nat.toDigits 10 number.natAbs).length ≤ digitLimit := by
  have positive : 0 < digitLimit := by decide
  rw [isTooLong, decide_eq_false_iff_not, Nat.not_le] at short
  generalize digitLimit = limit at short positive ⊢
  exact (Nat.length_toDigits_le_iff (by decide) positive).mpr short

theorem toList_integerText (number : Int) :
    (integerText number).toList =
      if number < 0 then '-' :: Nat.toDigits 10 number.natAbs
      else Nat.toDigits 10 number.natAbs := by
  rw [integerText, Int.toString_eq_repr]
  cases number with
  | ofNat number => rw [Int.repr, Nat.toList_repr, if_neg (by simp)]; rfl
  | negSucc number =>
      rw [Int.repr, String.toList_append, Nat.toList_repr, if_pos (Int.negSucc_lt_zero number)]
      rfl

end Numeral

end Rulebook
