import Rulebook.Proofs.Condition.Rereading
import Rulebook.Proofs.Number.Numeral
import Rulebook.Proofs.Number.Rounding

/-!
# Integers read as floating-point numbers

The decimal text of an integer, with blanks around it or without, is read as the member of the
binary format nearest to the integer.  Integers far out of the format's range are told from their
number of digits, which agrees with what rounding makes of them.
-/

namespace Rulebook

namespace Binary64

/-- Numbers of more than 310 digits have more than 1024 bits. -/
theorem log2_of_many_digits {number : Nat} (many : 310 < (Nat.toDigits 10 number).length) :
    1024 ≤ number.log2 := by
  have large : (10 ^ 62) ^ 5 ≤ number := by
    rw [← Nat.not_lt, ← Nat.pow_mul]
    intro small
    have few := (Nat.length_toDigits_le_iff (by decide) (by decide)).mpr small
    omega
  have bits : (2 ^ 205) ^ 5 ≤ (10 ^ 62) ^ 5 := Nat.pow_le_pow_left (by decide) 5
  rw [← Nat.pow_mul] at bits
  have nonzero : number ≠ 0 := by
    rintro rfl
    exact Nat.not_succ_le_zero _ (Nat.lt_of_lt_of_le (Nat.pow_pos (by decide)) large)
  have more : 205 * 5 ≤ number.log2 := (Nat.le_log2 nonzero).mpr (bits.trans large)
  omega

/-- A number written without point and exponent is rounded like the integer that it is. -/
theorem ofDecimal_zero (negative : Bool) (number : Nat) :
    ofDecimal negative number 0 = ofRatio negative number 1 := by
  by_cases none : number = 0
  · rw [none]
    rfl
  · simp only [ofDecimal, if_neg none, Int.add_zero]
    split
    · rename_i many
      have bits : 1024 ≤ number.log2 := log2_of_many_digits (by omega)
      rw [ofRatio_of_large bits]
    · have short : ¬ ((Nat.toDigits 10 number).length : Int) < -330 := by omega
      rw [if_neg short, if_pos (Int.le_refl 0)]
      change ofRatio negative (number * 1) 1 = _
      rw [Nat.mul_one]

end Binary64

namespace Numeral

theorem word?_of_isDigit {c : Char} (digit : c.isDigit = true) (negative : Bool)
    (rest : List Char) : word? negative (c :: rest) = none := by
  have small : ¬ (c.val ≥ 'A'.val ∧ c.val ≤ 'Z'.val) := by
    have high : c.toNat ≤ 57 := (Char.isDigit_iff_toNat.mp digit).2
    rw [ge_iff_le, UInt32.le_iff_toNat_le]
    intro upper
    exact absurd (upper.1.trans high) (by decide)
  have lower : c.toLower = c := dif_neg small
  have other {d : Char} (noDigit : d.isDigit = false) : c ≠ d := ne_of_isDigit digit noDigit
  simp [word?, lower, other]

theorem decimal?_of_isDigit {digits : List Char} (given : digits ≠ [])
    (all : ∀ c ∈ digits, c.isDigit = true) (negative : Bool) :
    decimal? negative digits =
      some (Binary64.ofDecimal negative (Text.decimalNumber digits) 0) := by
  have whole : digits.takeWhile Char.isDigit = digits := by
    rw [← List.append_nil digits, List.takeWhile_append_of_pos all]
    rfl
  have nonempty : digits.isEmpty = false := by simpa using given
  simp [decimal?, whole, nonempty]

/-- A text with an underscore nowhere has underscores between digits only. -/
theorem underscoresBetweenDigits_of_not_mem {text : List Char} (plain : '_' ∉ text) {c : Char}
    (other : c ≠ '_') : underscoresBetweenDigits c text = true := by
  induction text generalizing c with
  | nil => simpa [underscoresBetweenDigits] using other
  | cons d text ih =>
      obtain ⟨here, later⟩ := not_or.mp (mt List.mem_cons.mpr plain)
      rw [underscoresBetweenDigits, ih later (Ne.symm here)]
      · simp [other]
      · exact fun same => here same.symm

theorem isDateChar_of_mem_integerText {number : Int} {c : Char}
    (member : c ∈ (integerText number).toList) : isDateChar c = true := by
  rw [toList_integerText] at member
  split at member
  · rcases List.mem_cons.mp member with rfl | digit
    · rfl
    · simp [isDateChar, Text.isDigit_of_mem_toDigits digit]
  · simp [isDateChar, Text.isDigit_of_mem_toDigits member]

theorem toList_integerText_ne_nil (number : Int) : (integerText number).toList ≠ [] := by
  rw [toList_integerText]
  split
  · exact List.cons_ne_nil _ _
  · exact Nat.toDigits_ne_nil

theorem splitSign_integerText (number : Int) :
    splitSign (integerText number).toList =
      (decide (number < 0), Nat.toDigits 10 number.natAbs) := by
  rw [toList_integerText]
  obtain ⟨c, digits, form, digit⟩ := Text.exists_toDigits number.natAbs
  by_cases negative : number < 0
  · rw [if_pos negative, decide_eq_true negative]
    rfl
  · rw [if_neg negative, decide_eq_false negative, form, splitSign_of_isDigit digit]

end Numeral

/-- Whether a text is the decimal text of an integer, with blanks around it or without. -/
def IsDecimalOf (number : Int) (text : String) : Prop :=
  ∃ before after : List Char, (∀ c ∈ before ++ after, Text.isBlank c = true) ∧
    text.toList = before ++ (Numeral.integerText number).toList ++ after

namespace IsDecimalOf

variable {number : Int} {text : String}

theorem trimWhile_eq (decimal : IsDecimalOf number text) :
    Text.trimWhile Text.isBlank text.toList = (Numeral.integerText number).toList := by
  obtain ⟨before, after, blank, form⟩ := decimal
  rw [form, Text.trimWhile_between blank, Text.trimWhile_eq_self]
  intro c member
  exact isBlank_of_isDateChar (Numeral.isDateChar_of_mem_integerText member)

/-- The decimal text of an integer is read as the member nearest to it. -/
theorem float?_eq (decimal : IsDecimalOf number text) :
    Numeral.float? text.toList = some (Binary64.ofInt number) := by
  have written {c : Char} (member : c ∈ (Numeral.integerText number).toList) :
      isDateChar c = true := Numeral.isDateChar_of_mem_integerText member
  have normal : Numeral.normalized text.toList = (Numeral.integerText number).toList := by
    rw [Numeral.normalized, decimal.trimWhile_eq]
    calc _ = (Numeral.integerText number).toList.map id :=
          List.map_congr_left fun c member => toAsciiDigit_of_isDateChar (written member)
      _ = _ := List.map_id _
  have plain : '_' ∉ (Numeral.integerText number).toList := by
    intro member
    cases written member
  have kept : (Numeral.integerText number).toList.filter (· != '_') =
      (Numeral.integerText number).toList := by
    rw [List.filter_eq_self]
    intro c member
    rw [bne_iff_ne]
    rintro rfl
    exact plain member
  obtain ⟨c, digits, form, digit⟩ := Text.exists_toDigits number.natAbs
  have noWord : Numeral.word? (decide (number < 0)) (Nat.toDigits 10 number.natAbs) = none := by
    rw [form]
    exact Numeral.word?_of_isDigit digit _ _
  have all : ∀ c ∈ Nat.toDigits 10 number.natAbs, c.isDigit = true :=
    fun c => Text.isDigit_of_mem_toDigits
  have read := Numeral.decimal?_of_isDigit Nat.toDigits_ne_nil all (decide (number < 0))
  rw [Text.decimalNumber_toDigits, Binary64.ofDecimal_zero] at read
  rw [Numeral.float?, normal, kept, Numeral.splitSign_integerText]
  dsimp only
  rw [Numeral.underscoresBetweenDigits_of_not_mem plain (by decide), noWord, read]
  rfl

theorem toNumber_eq (decimal : IsDecimalOf number text) :
    (Value.text text).toNumber = Value.finite (Binary64.ofInt number) := by
  rw [Value.toNumber, decimal.float?_eq]
  rfl

end IsDecimalOf

end Rulebook
