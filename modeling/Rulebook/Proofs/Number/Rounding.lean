import Mathlib.Algebra.Order.Ring.Unbundled.Rat
import Rulebook.Number.Binary64

/-!
# Integers in the binary format

An integer that has more bits than a significand is rounded to a multiple of the power of two that
stands for the bits it has too many.  It is a member of the format exactly when these bits are
zeros, that is when it is a number of at most 53 bits times a power of two.
-/

namespace Rulebook

theorem roundHalfEven_one (number : Nat) : roundHalfEven number 1 = number := by
  simp [roundHalfEven, Nat.mod_one]

/-- Rounding a quotient loses nothing exactly when the division leaves no rest. -/
theorem roundHalfEven_mul_eq_iff {numerator denominator : Nat} (positive : 0 < denominator) :
    roundHalfEven numerator denominator * denominator = numerator ↔ denominator ∣ numerator := by
  constructor
  · intro same
    rw [← same]
    exact Nat.dvd_mul_left _ _
  · rintro ⟨quotient, rfl⟩
    have rest : denominator * quotient % denominator = 0 := Nat.mul_mod_right _ _
    have whole : denominator * quotient / denominator = quotient :=
      Nat.mul_div_cancel_left _ positive
    simp [roundHalfEven, rest, whole, positive, Nat.mul_comm]

namespace Binary64

/-- An integer given by its sign and its absolute value. -/
def signed (negative : Bool) (magnitude : Nat) : Int :=
  if negative then -(magnitude : Int) else magnitude

theorem signed_natAbs (number : Int) : signed (number < 0) number.natAbs = number := by
  by_cases negative : number < 0
  · simp only [signed, negative, decide_true, if_true]
    omega
  · simp only [signed, negative, decide_false, Bool.false_eq_true, if_false]
    omega

theorem signed_injective (negative : Bool) {left right : Nat}
    (same : signed negative left = signed negative right) : left = right := by
  cases negative <;> simpa [signed] using same

/-! ## Values of members -/

theorem toRat_finite_of_power (negative : Bool) (significand power : Nat) :
    (finite negative significand power).toRat =
      signed negative (significand * Nat.pow 2 power) := by
  cases power with
  | zero => cases negative <;> simp [toRat, ratio, scaled, signed, Rat.mkRat_one]
  | succ power =>
      have negated : ¬ (0 : Int) ≤ -((power + 1 : Nat) : Int) := by omega
      simp only [toRat, ratio, scaled, if_neg negated, Int.neg_neg, Int.toNat_natCast, signed,
        Rat.mkRat_one]

theorem toRat_finite_of_shift (negative : Bool) (number power : Nat) :
    (finite negative (number * Nat.pow 2 power) (-(power : Int))).toRat =
      signed negative number := by
  have nonzero : Nat.pow 2 power ≠ 0 := (Nat.two_pow_pos power).ne'
  have shifted : signed negative (number * Nat.pow 2 power) =
      signed negative number * (Nat.pow 2 power : Nat) := by
    cases negative <;> simp [signed]
  rw [← Rat.mkRat_one, ← Rat.mkRat_mul_right nonzero, ← shifted]
  simp [toRat, ratio, scaled, signed]

/-! ## Rounding integers -/

theorem binaryLog_one {number : Nat} (positive : 0 < number) :
    binaryLog number 1 = number.log2 := by
  have below : 2 ^ number.log2 ≤ number := Nat.log2_self_le positive.ne'
  have one : Nat.log2 1 = 0 := by decide
  simp [binaryLog, scaled, one, below]

/-- Between an integer and the spacing of the members around it there are the bits of a full
significand. -/
theorem gridExponent_one {number : Nat} (positive : 0 < number) :
    gridExponent number 1 = (number.log2 : Int) - 52 := by
  simp only [gridExponent, binaryLog_one positive, minExponent, precision]
  omega

theorem roundHalfEven_scaled_of_shift (number power : Nat) :
    roundHalfEven (scaled number 1 (-(power : Int))).1 (scaled number 1 (-(power : Int))).2 =
      number * Nat.pow 2 power := by
  cases power with
  | zero => simp [scaled, roundHalfEven_one]
  | succ power =>
      have negated : ¬ (0 : Int) ≤ -((power + 1 : Nat) : Int) := by omega
      simp only [scaled, if_neg negated, Int.neg_neg, Int.toNat_natCast, roundHalfEven_one]

/-- An integer whose bits all have room is shifted to fill the significand. -/
theorem ofRatio_of_room {number power : Nat} (positive : 0 < number)
    (room : number.log2 + power = 52) (negative : Bool) :
    ofRatio negative number 1 = finite negative (number * Nat.pow 2 power) (-(power : Int)) := by
  have nonzero : ¬ (number = 0 ∨ 1 = 0) := by omega
  have exponent : gridExponent number 1 = -(power : Int) := by
    rw [gridExponent_one positive]
    omega
  have uncarried : number * Nat.pow 2 power ≠ Nat.pow 2 precision := by
    have bits : number < 2 ^ (number.log2 + 1) := Nat.lt_log2_self
    have shifted : number * 2 ^ power < 2 ^ (number.log2 + 1) * 2 ^ power :=
      Nat.mul_lt_mul_of_pos_right bits (Nat.two_pow_pos power)
    rw [← Nat.pow_add, show number.log2 + 1 + power = precision by rw [precision]; omega]
      at shifted
    exact shifted.ne
  have small : ¬ maxExponent < -(power : Int) := by
    rw [maxExponent]
    omega
  simp only [ofRatio, Bool.or_eq_true, decide_eq_true_eq, if_neg nonzero, exponent,
    roundHalfEven_scaled_of_shift, if_neg uncarried, if_neg small]

/-- An integer with more bits is rounded to a multiple of a power of two; a significand that is
rounded up to one bit more is shifted back. -/
theorem exists_ofRatio_of_excess {number power : Nat} (positive : 0 < number)
    (excess : number.log2 = 52 + power) (negative : Bool) :
    ∃ significand exponent : Nat,
      ofRatio negative number 1 =
          (if maxExponent < exponent then infinite negative
            else finite negative significand exponent) ∧
        power ≤ exponent ∧
          significand * Nat.pow 2 exponent =
            roundHalfEven number (Nat.pow 2 power) * Nat.pow 2 power := by
  have nonzero : ¬ (number = 0 ∨ 1 = 0) := by omega
  have exponent : gridExponent number 1 = (power : Int) := by
    rw [gridExponent_one positive]
    omega
  have parts : scaled number 1 (power : Int) = (number, Nat.pow 2 power) := by
    simp [scaled]
  by_cases carried : roundHalfEven number (Nat.pow 2 power) = Nat.pow 2 precision
  · refine ⟨Nat.pow 2 52, power + 1, ?_, Nat.le_succ power, ?_⟩
    · simp only [ofRatio, Bool.or_eq_true, decide_eq_true_eq, if_neg nonzero, exponent, parts,
        if_pos carried]
      rfl
    · rw [carried]
      change 2 ^ 52 * 2 ^ (power + 1) = 2 ^ 53 * 2 ^ power
      rw [← Nat.pow_add, ← Nat.pow_add, show 52 + (power + 1) = 53 + power by omega]
  · refine ⟨_, power, ?_, Nat.le_refl power, rfl⟩
    simp only [ofRatio, Bool.or_eq_true, decide_eq_true_eq, if_neg nonzero, exponent, parts,
      if_neg carried]

/-- How many bits of an integer a significand has no room for. -/
def excessBits (number : Nat) : Nat := number.log2 - (precision - 1)

theorem toRat_ofRatio_one {number : Nat} (positive : 0 < number) {negative : Bool}
    (inRange : (ofRatio negative number 1).isFinite = true) :
    (ofRatio negative number 1).toRat =
      signed negative (roundHalfEven number (Nat.pow 2 (excessBits number)) *
        Nat.pow 2 (excessBits number)) := by
  by_cases few : number.log2 ≤ 52
  · obtain ⟨power, room⟩ : ∃ power, number.log2 + power = 52 := ⟨52 - number.log2, by omega⟩
    have none : excessBits number = 0 := by
      rw [excessBits, precision]
      omega
    rw [ofRatio_of_room positive room, toRat_finite_of_shift, none]
    change _ = ((signed negative (roundHalfEven number 1 * 1) : Int) : Rat)
    rw [roundHalfEven_one, Nat.mul_one]
  · obtain ⟨power, excess⟩ : ∃ power, number.log2 = 52 + power := ⟨number.log2 - 52, by omega⟩
    have some : excessBits number = power := by
      rw [excessBits, precision]
      omega
    obtain ⟨significand, exponent, rounded, -, value⟩ :=
      exists_ofRatio_of_excess positive excess negative
    rw [rounded] at inRange ⊢
    split at inRange
    · cases inRange
    · rename_i small
      rw [if_neg small, toRat_finite_of_power, value, some]

/-- Integers of more than 1024 bits are out of range. -/
theorem ofRatio_of_large {number : Nat} (large : 1024 ≤ number.log2) (negative : Bool) :
    ofRatio negative number 1 = infinite negative := by
  have positive : 0 < number := by
    refine Nat.pos_of_ne_zero ?_
    rintro rfl
    have nothing : Nat.log2 0 = 0 := by decide
    omega
  obtain ⟨power, excess⟩ : ∃ power, number.log2 = 52 + power := ⟨number.log2 - 52, by omega⟩
  obtain ⟨significand, exponent, rounded, above, -⟩ :=
    exists_ofRatio_of_excess positive excess negative
  have outside : maxExponent < (exponent : Int) := by
    rw [maxExponent]
    omega
  rw [rounded, if_pos outside]

/-! ## Integers that are members -/

/-- Whether an integer is a number of as many bits as a significand has, times a power of two. -/
def HasShortForm (number : Int) : Prop :=
  ∃ significand power : Nat, significand < Nat.pow 2 precision ∧
    number.natAbs = significand * Nat.pow 2 power

/-- In a short form the bits that a significand has no room for are zeros. -/
theorem hasShortForm_iff_dvd {number : Int} (nonzero : number ≠ 0) :
    HasShortForm number ↔ Nat.pow 2 (excessBits number.natAbs) ∣ number.natAbs := by
  have positive : number.natAbs ≠ 0 := Int.natAbs_ne_zero.mpr nonzero
  constructor
  · rintro ⟨significand, power, short, form⟩
    by_cases few : excessBits number.natAbs ≤ power
    · have divides : 2 ^ excessBits number.natAbs ∣ significand * 2 ^ power :=
        Nat.dvd_mul_left_of_dvd (Nat.pow_dvd_pow 2 few) significand
      exact form ▸ divides
    · -- An integer with more excess bits than zeros at its end would have to be larger.
      have bits : 53 + power ≤ number.natAbs.log2 := by
        rw [excessBits, precision] at few
        omega
      have large : 2 ^ (53 + power) ≤ number.natAbs := (Nat.le_log2 positive).mp bits
      have small : significand * 2 ^ power < 2 ^ 53 * 2 ^ power :=
        Nat.mul_lt_mul_of_pos_right short (Nat.two_pow_pos power)
      rw [← Nat.pow_add] at small
      exact absurd (form ▸ large) (Nat.not_le_of_lt small)
  · rintro ⟨significand, form⟩
    refine ⟨significand, excessBits number.natAbs, ?_, form.trans (Nat.mul_comm _ _)⟩
    have bits : number.natAbs < 2 ^ (number.natAbs.log2 + 1) := Nat.lt_log2_self
    have room : 2 ^ (number.natAbs.log2 + 1) ≤ 2 ^ (excessBits number.natAbs + 53) := by
      refine Nat.pow_le_pow_right (by decide) ?_
      rw [excessBits, precision]
      omega
    have shifted : 2 ^ excessBits number.natAbs * significand <
        2 ^ excessBits number.natAbs * 2 ^ 53 := by
      rw [← Nat.pow_add]
      exact form ▸ Nat.lt_of_lt_of_le bits room
    exact Nat.lt_of_mul_lt_mul_left shifted

/-- The member nearest to an integer of the format's range is the integer itself exactly when the
integer has a short form. -/
theorem toRat_ofInt_eq_iff {number : Int} (inRange : (ofInt number).isFinite = true) :
    (ofInt number).toRat = number ↔ HasShortForm number := by
  by_cases none : number = 0
  · subst none
    refine iff_of_true ?_ ⟨0, 0, Nat.two_pow_pos precision, rfl⟩
    have nothing : (scaled 0 1 (-minExponent)).1 = 0 := by
      rw [scaled]
      split <;> simp
    simp [ofInt, ofRatio, zero, toRat, ratio, nothing]
  · have positive : 0 < number.natAbs := Int.natAbs_pos.mpr none
    have unit : 0 < Nat.pow 2 (excessBits number.natAbs) := Nat.two_pow_pos _
    rw [hasShortForm_iff_dvd none, ← roundHalfEven_mul_eq_iff unit, ofInt,
      toRat_ofRatio_one positive inRange, Rat.intCast_inj]
    constructor
    · intro same
      exact signed_injective _ (same.trans (signed_natAbs number).symm)
    · intro same
      rw [same, signed_natAbs]

end Binary64

end Rulebook
