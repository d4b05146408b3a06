import Rulebook.Document.Literal
import Rulebook.Proofs.Document.Induction

/-!
# Values that can be shown

A value has a literal form exactly when no integer in it has too many digits.
-/

namespace Rulebook.Value

mutual

/-- Whether no integer in a value has too many digits to be written. -/
def isShowable : Value → Bool
  | int value => !Numeral.isTooLong value
  | list items | tuple items => areShowable items
  | mapping entries => entriesAreShowable entries
  | absent | null | bool _ | float _ | text _ | date _ | dateTime _ | bytes _ => true

/-- Whether no integer in the elements of a sequence has too many digits. -/
def areShowable : List Value → Bool
  | [] => true
  | item :: items => isShowable item && areShowable items

/-- Whether no integer in the values of a mapping has too many digits. -/
def entriesAreShowable : List (String × Value) → Bool
  | [] => true
  | (_, value) :: entries => isShowable value && entriesAreShowable entries

end

theorem areShowable_iff {items : List Value} :
    areShowable items = true ↔ ∀ item ∈ items, item.isShowable = true := by
  induction items with
  | nil => simp [areShowable]
  | cons item items ih => rw [areShowable, Bool.and_eq_true, ih, List.forall_mem_cons]

theorem entriesAreShowable_iff {entries : List (String × Value)} :
    entriesAreShowable entries = true ↔ ∀ entry ∈ entries, entry.2.isShowable = true := by
  induction entries with
  | nil => simp [entriesAreShowable]
  | cons entry entries ih =>
      rw [entriesAreShowable, Bool.and_eq_true, ih, List.forall_mem_cons]

theorem isSome_itemLiterals? {items : List Value}
    (each : ∀ item ∈ items, item.literal?.isSome = item.isShowable) :
    (itemLiterals? items).isSome = areShowable items := by
  induction items with
  | nil => rfl
  | cons item items ih =>
      obtain ⟨here, later⟩ := List.forall_mem_cons.mp each
      rw [areShowable, ← here, ← ih later, itemLiterals?]
      cases item.literal? <;> cases itemLiterals? items <;> rfl

theorem isSome_entryLiterals? {entries : List (String × Value)}
    (each : ∀ entry ∈ entries, entry.2.literal?.isSome = entry.2.isShowable) :
    (entryLiterals? entries).isSome = entriesAreShowable entries := by
  induction entries with
  | nil => rfl
  | cons entry entries ih =>
      obtain ⟨here, later⟩ := List.forall_mem_cons.mp each
      rw [entriesAreShowable, ← here, ← ih later, entryLiterals?]
      cases entry.2.literal? <;> cases entryLiterals? entries <;> rfl

/-- A value has a literal form exactly when it can be shown. -/
theorem isSome_literal? (value : Value) : value.literal?.isSome = value.isShowable := by
  induction value with
  | int value =>
      rw [literal?, isShowable, Numeral.integerText?]
      cases Numeral.isTooLong value <;> rfl
  | list items ih => rw [literal?, isShowable, Option.isSome_map, isSome_itemLiterals? ih]
  | tuple items ih => rw [literal?, isShowable, Option.isSome_map, isSome_itemLiterals? ih]
  | mapping entries ih => rw [literal?, isShowable, Option.isSome_map, isSome_entryLiterals? ih]
  | _ => rfl

end Rulebook.Value
