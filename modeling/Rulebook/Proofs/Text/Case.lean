import Rulebook.Text.Case

/-!
# Texts of the same letters

Texts that differ only in the case of ASCII letters have the same lower case and the same upper
case.
-/

namespace Rulebook.Text

theorem toNat_toLower (c : Char) :
    c.toLower.toNat = if 65 ≤ c.toNat ∧ c.toNat ≤ 90 then c.toNat + 32 else c.toNat := by
  have first : 'A'.toNat = 65 := rfl
  have last : 'Z'.toNat = 90 := rfl
  delta Char.toLower
  simp only [UInt32.le_iff_toNat_le, ge_iff_le, Char.toNat_val, first, last]
  split
  · rw [← Char.toNat_val, UInt32.toNat_add, Char.toNat_val]
    change (c.toNat + 32) % 4294967296 = c.toNat + 32
    omega
  · rfl

theorem toNat_toUpper (c : Char) :
    c.toUpper.toNat = if 97 ≤ c.toNat ∧ c.toNat ≤ 122 then c.toNat - 32 else c.toNat := by
  have first : 'a'.toNat = 97 := rfl
  have last : 'z'.toNat = 122 := rfl
  delta Char.toUpper
  simp only [UInt32.le_iff_toNat_le, Char.toNat_val, first, last]
  split
  · rw [← Char.toNat_val, UInt32.toNat_add, Char.toNat_val]
    change (c.toNat + 4294967264) % 4294967296 = c.toNat - 32
    omega
  · rfl

/-- Whether two texts are the same up to the case of ASCII letters. -/
def SameLetters (left right : String) : Prop :=
  left.toList.map Char.toLower = right.toList.map Char.toLower

instance (left right : String) : Decidable (SameLetters left right) :=
  inferInstanceAs (Decidable (_ = _))

section Characters

variable {c d : Char} (same : c.toLower = d.toLower)

include same

/-- Beyond ASCII there are no two characters of the same letter. -/
theorem ascii_or_eq_of_toLower_eq : (c.toNat < 128 ∧ d.toNat < 128) ∨ c = d := by
  have numbers := congrArg Char.toNat same
  rw [toNat_toLower, toNat_toLower] at numbers
  rw [Char.toNat_inj.symm]
  split at numbers <;> split at numbers <;> omega

theorem toUpper_eq_of_toLower_eq : c.toUpper = d.toUpper := by
  have numbers := congrArg Char.toNat same
  rw [toNat_toLower, toNat_toLower] at numbers
  rw [← Char.toNat_inj, toNat_toUpper, toNat_toUpper]
  split at numbers <;> split at numbers <;> split <;> split <;> omega

theorem lowerChar_eq : lowerChar c = lowerChar d := by
  rcases ascii_or_eq_of_toLower_eq same with ⟨first, second⟩ | rfl
  · rw [lowerChar, lowerChar, if_pos first, if_pos second, same]
  · rfl

theorem upperChar_eq : upperChar c = upperChar d := by
  rcases ascii_or_eq_of_toLower_eq same with ⟨first, second⟩ | rfl
  · rw [upperChar, upperChar, if_pos first, if_pos second, toUpper_eq_of_toLower_eq same]
  · rfl

end Characters

/-- A change of single characters does the same to both lists when it does to related ones. -/
theorem flatMap_eq_of_map_eq {change : Char → List Char} {form : Char → Char}
    (respects : ∀ c d, form c = form d → change c = change d) {left right : List Char}
    (same : left.map form = right.map form) : left.flatMap change = right.flatMap change := by
  induction left generalizing right with
  | nil => rw [List.map_eq_nil_iff.mp same.symm]
  | cons c rest ih =>
      obtain ⟨d, others, rfl, first, later⟩ := List.map_eq_cons_iff.mp same.symm
      rw [List.flatMap_cons, List.flatMap_cons, respects d c first, ih later.symm]

namespace SameLetters

variable {left right : String}

theorem symm (same : SameLetters left right) : SameLetters right left := Eq.symm same

theorem lower_eq (same : SameLetters left right) : lower left = lower right :=
  congrArg String.ofList (flatMap_eq_of_map_eq (fun _ _ => lowerChar_eq) same)

theorem upper_eq (same : SameLetters left right) : upper left = upper right :=
  congrArg String.ofList (flatMap_eq_of_map_eq (fun _ _ => upperChar_eq) same)

end SameLetters

end Rulebook.Text
