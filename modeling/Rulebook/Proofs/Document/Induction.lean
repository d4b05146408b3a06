import Rulebook.Document.Value

/-!
# Induction on values

A value is proved to have a property from the inside out: the elements of a sequence and the values
of a mapping have it before the sequence or the mapping itself.
-/

namespace Rulebook.Value

/-- Induction on values, with the hypothesis for every value directly inside. -/
@[elab_as_elim, induction_eliminator]
theorem induction {motive : Value → Prop} (absent : motive absent) (null : motive null)
    (bool : ∀ value, motive (bool value)) (int : ∀ value, motive (int value))
    (float : ∀ value, motive (float value)) (text : ∀ value, motive (text value))
    (list : ∀ items, (∀ item ∈ items, motive item) → motive (list items))
    (tuple : ∀ items, (∀ item ∈ items, motive item) → motive (tuple items))
    (mapping : ∀ entries, (∀ entry ∈ entries, motive entry.2) → motive (mapping entries))
    (date : ∀ value, motive (date value)) (dateTime : ∀ value, motive (dateTime value))
    (bytes : ∀ value, motive (bytes value)) (value : Value) : motive value := by
  refine Value.rec (motive_2 := fun items => ∀ item ∈ items, motive item)
    (motive_3 := fun entries => ∀ entry ∈ entries, motive entry.2)
    (motive_4 := fun entry => motive entry.2)
    absent null bool int float text list tuple mapping date dateTime bytes ?_ ?_ ?_ ?_ ?_ value
  · exact List.forall_mem_nil _
  · exact fun _ _ first rest => List.forall_mem_cons.mpr ⟨first, rest⟩
  · exact List.forall_mem_nil _
  · exact fun _ _ first rest => List.forall_mem_cons.mpr ⟨first, rest⟩
  · exact fun _ _ given => given

end Rulebook.Value
