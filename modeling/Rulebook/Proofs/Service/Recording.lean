import Rulebook.Proofs.Json.Reading
import Rulebook.Service.Journal

/-!
# Recorded events

An event that is not below the level of the journal is recorded exactly when the values of its
fields can be shown; what the journal adds to them are texts.  An event that cannot be recorded
leaves the journal as it is.
-/

namespace Rulebook.Journal

theorem exists_recordedItems_iff {items : List Value}
    (each : ∀ item ∈ items, (∃ entry, recorded item = .ok entry) ↔ item.isShowable = true) :
    (∃ entries, recordedItems items = .ok entries) ↔ Value.areShowable items = true := by
  induction items with
  | nil => exact iff_of_true ⟨[], rfl⟩ rfl
  | cons item items ih =>
      obtain ⟨here, later⟩ := List.forall_mem_cons.mp each
      rw [Value.areShowable, Bool.and_eq_true, ← here, ← ih later, recordedItems]
      constructor
      · rintro ⟨entries, done⟩
        obtain ⟨first, taken, rest⟩ := Except.bind_eq_ok.mp done
        obtain ⟨others, after, -⟩ := Except.bind_eq_ok.mp rest
        exact ⟨⟨first, taken⟩, others, after⟩
      · rintro ⟨⟨first, taken⟩, others, after⟩
        rw [taken, after]
        exact ⟨_, rfl⟩

theorem exists_recordedEntries_iff {entries : List (String × Value)}
    (each : ∀ entry ∈ entries,
      (∃ recording, recorded entry.2 = .ok recording) ↔ entry.2.isShowable = true) :
    (∃ recordings, recordedEntries entries = .ok recordings) ↔
      Value.entriesAreShowable entries = true := by
  induction entries with
  | nil => exact iff_of_true ⟨[], rfl⟩ rfl
  | cons entry entries ih =>
      obtain ⟨here, later⟩ := List.forall_mem_cons.mp each
      rw [Value.entriesAreShowable, Bool.and_eq_true, ← here, ← ih later, recordedEntries]
      constructor
      · rintro ⟨recordings, done⟩
        obtain ⟨first, taken, rest⟩ := Except.bind_eq_ok.mp done
        obtain ⟨others, after, -⟩ := Except.bind_eq_ok.mp rest
        exact ⟨⟨first, taken⟩, others, after⟩
      · rintro ⟨⟨first, taken⟩, others, after⟩
        rw [taken, after]
        exact ⟨_, rfl⟩

/-- A value can be recorded exactly when it can be shown. -/
theorem exists_recorded_iff (value : Value) :
    (∃ recording, recorded value = .ok recording) ↔ value.isShowable = true := by
  induction value with
  | int value =>
      rw [recorded, Value.isShowable]
      cases Numeral.isTooLong value <;> simp
  | list items ih | tuple items ih =>
      rw [recorded, Value.isShowable, ← exists_recordedItems_iff ih]
      simp [Except.map_eq_ok]
  | mapping entries ih =>
      rw [recorded, Value.isShowable, ← exists_recordedEntries_iff ih]
      simp [Except.map_eq_ok]
  | _ => exact iff_of_true ⟨_, rfl⟩ rfl

/-! ## What stops a recording -/

theorem stopsOnly_literal (value : Value) : StopsOnly (· = Fault.integerTooLong) value.literal :=
  .elim (StopsOnly.error_iff.mpr rfl) .ok

theorem stopsOnly_recordedItems {items : List Value}
    (each : ∀ item ∈ items, StopsOnly (· = Fault.integerTooLong) (recorded item)) :
    StopsOnly (· = Fault.integerTooLong) (recordedItems items) := by
  induction items with
  | nil => exact .ok _
  | cons item items ih =>
      obtain ⟨here, later⟩ := List.forall_mem_cons.mp each
      rw [recordedItems]
      exact here.bind fun _ _ => (ih later).bind fun _ _ => .ok _

theorem stopsOnly_recordedEntries {entries : List (String × Value)}
    (each : ∀ entry ∈ entries, StopsOnly (· = Fault.integerTooLong) (recorded entry.2)) :
    StopsOnly (· = Fault.integerTooLong) (recordedEntries entries) := by
  induction entries with
  | nil => exact .ok _
  | cons entry entries ih =>
      obtain ⟨here, later⟩ := List.forall_mem_cons.mp each
      rw [recordedEntries]
      exact here.bind fun _ _ => (ih later).bind fun _ _ => .ok _

/-- Only an integer with too many digits stops the recording of a value. -/
theorem stopsOnly_recorded (value : Value) :
    StopsOnly (· = Fault.integerTooLong) (recorded value) := by
  induction value with
  | int value =>
      rw [recorded]
      split
      · exact StopsOnly.error_iff.mpr rfl
      · exact .ok _
  | list items ih | tuple items ih =>
      rw [recorded]
      exact (stopsOnly_recordedItems ih).map _
  | mapping entries ih =>
      rw [recorded]
      exact (stopsOnly_recordedEntries ih).map _
  | absent | date value | dateTime value | bytes value =>
      rw [recorded]
      exact (stopsOnly_literal _).map _
  | null | bool value | float value | text value => exact .ok _

/-! ## Entries of events -/

/-- The keys under which the journal itself enters something. -/
def ownKeys : List String :=
  ["event", "logger", "level", "service", "request_id", "role_id"]

/-- Whether entries come from others by entering texts under keys of the journal. -/
inductive IsMarked (entries : List (String × Value)) : List (String × Value) → Prop where
  | unmarked : IsMarked entries entries
  | mark {marked : List (String × Value)} {key word : String} (before : IsMarked entries marked)
      (own : key ∈ ownKeys) : IsMarked entries (Json.setEntry key (.text word) marked)

theorem IsMarked.setGiven {entries marked : List (String × Value)}
    (before : IsMarked entries marked) {key : String} (own : key ∈ ownKeys)
    (value : Option String) : IsMarked entries (Journal.setGiven key value marked) := by
  cases value with
  | none => exact before
  | some value =>
      rw [Journal.setGiven]
      split
      · exact before
      · exact before.mark own

theorem IsMarked.withService {entries marked : List (String × Value)}
    (before : IsMarked entries marked) : IsMarked entries (Journal.withService marked) := by
  rw [Journal.withService]
  split
  · dsimp only
    split
    · exact before.mark (by simp [ownKeys])
    · exact before
  · exact before

/-- The entries of an event are its fields and texts that the journal adds. -/
theorem isMarked_entriesOf (journal : Journal) (event : Event) :
    IsMarked (event.fields.map fun field => (field.1, decoded field.2))
      (journal.entriesOf event) := by
  refine IsMarked.setGiven (IsMarked.setGiven (IsMarked.withService ?_) ?_ _) ?_ _
  · refine IsMarked.mark (IsMarked.mark (IsMarked.mark .unmarked ?_) ?_) ?_ <;> simp [ownKeys]
  · simp [ownKeys]
  · simp [ownKeys]

theorem mem_setEntry {entries : List (String × Value)} {entry : String × Value}
    (member : entry ∈ entries) {key : String} (other : entry.1 ≠ key) (value : Value) :
    entry ∈ Json.setEntry key value entries := by
  induction entries with
  | nil => cases member
  | cons first entries ih =>
      obtain ⟨name, old⟩ := first
      rw [Json.setEntry]
      rcases List.mem_cons.mp member with rfl | member
      · rw [if_neg other]
        exact List.mem_cons_self
      · split
        · exact List.mem_cons_of_mem _ member
        · exact List.mem_cons_of_mem _ (ih member)

theorem IsMarked.entriesAreShowable {entries marked : List (String × Value)}
    (isMarked : IsMarked entries marked) (showable : Value.entriesAreShowable entries = true) :
    Value.entriesAreShowable marked = true := by
  rw [Value.entriesAreShowable_iff] at showable ⊢
  induction isMarked with
  | unmarked => exact showable
  | mark _ _ ih => exact Json.forall_mem_setEntry (·.isShowable = true) ih _ rfl

theorem IsMarked.mem {entries marked : List (String × Value)}
    (isMarked : IsMarked entries marked) {entry : String × Value} (member : entry ∈ entries)
    (other : entry.1 ∉ ownKeys) : entry ∈ marked := by
  induction isMarked with
  | unmarked => exact member
  | mark _ own ih => exact mem_setEntry ih (ne_of_mem_of_not_mem own other).symm _

theorem isShowable_decoded (value : Value) : (decoded value).isShowable = value.isShowable := by
  cases value <;> rfl

/-- The entries of an event can be shown when its fields can, and only then unless the journal
enters something in their place. -/
theorem entriesAreShowable_entriesOf_iff (journal : Journal) {event : Event}
    (own : ∀ field ∈ event.fields, field.1 ∉ ownKeys) :
    Value.entriesAreShowable (journal.entriesOf event) = true ↔
      Value.entriesAreShowable event.fields = true := by
  have marked := journal.isMarked_entriesOf event
  constructor
  · rw [Value.entriesAreShowable_iff, Value.entriesAreShowable_iff]
    intro showable field member
    have among := marked.mem (List.mem_map_of_mem member) (own field member)
    rw [← isShowable_decoded]
    exact showable _ among
  · intro showable
    refine marked.entriesAreShowable (Value.entriesAreShowable_iff.mpr fun entry member => ?_)
    obtain ⟨field, among, rfl⟩ := List.mem_map.mp member
    rw [isShowable_decoded]
    exact Value.entriesAreShowable_iff.mp showable field among

/-! ## Recording an event -/

/-- An event comes into the journal, or leaves it as it is and stops. -/
theorem run_log (event : Event) (journal : Journal) :
    (log event).run journal =
      match journal.record event with
      | .ok later => (.ok (), later)
      | .error fault => (.error fault, journal) := by
  change (logged (journal.record event) >>= fun later => set later).run journal = _
  cases journal.record event <;> rfl

theorem stopsOnly_record (journal : Journal) (event : Event) :
    StopsOnly (· = Fault.integerTooLong) (journal.record event) := by
  rw [record]
  split
  · exact .ok _
  · exact (stopsOnly_recorded _).bind fun _ _ => .ok _

theorem run_log_eq_error {event : Event} {fault : Fault} {journal later : Journal}
    (stopped : (log event).run journal = (.error fault, later)) :
    fault = .integerTooLong ∧ later = journal := by
  rw [run_log] at stopped
  split at stopped
  · cases stopped
  · rename_i cause outcome
    cases stopped
    exact ⟨stopsOnly_record journal event _ outcome, rfl⟩

/-- An event whose own fields keep off the keys of the journal is entered exactly when it is below
the level of the journal or its fields can be shown. -/
theorem exists_record_iff {event : Event} (own : ∀ field ∈ event.fields, field.1 ∉ ownKeys)
    (journal : Journal) :
    (∃ later, journal.record event = .ok later) ↔
      (journal.threshold ≤ event.level.gravity →
        Value.entriesAreShowable event.fields = true) := by
  rw [record]
  split
  -- Below the level of the journal nothing is written, whatever the fields hold.
  · rename_i low
    exact iff_of_true ⟨journal, rfl⟩ fun high => (Nat.not_le_of_lt low high).elim
  · rename_i high
    have entered := exists_recorded_iff (.mapping (journal.entriesOf event))
    rw [Value.isShowable, entriesAreShowable_entriesOf_iff journal own] at entered
    rw [forall_prop_of_true (Nat.le_of_not_lt high), ← entered]
    constructor
    · rintro ⟨later, done⟩
      obtain ⟨entry, made, -⟩ := Except.bind_eq_ok.mp done
      exact ⟨entry, made⟩
    · rintro ⟨entry, made⟩
      exact ⟨_, Except.bind_eq_ok.mpr ⟨entry, made, rfl⟩⟩

/-- Such an event is recorded under the same condition. -/
theorem exists_run_log_iff {event : Event} (own : ∀ field ∈ event.fields, field.1 ∉ ownKeys)
    (journal : Journal) :
    (∃ later, (log event).run journal = (.ok (), later)) ↔
      (journal.threshold ≤ event.level.gravity →
        Value.entriesAreShowable event.fields = true) := by
  rw [← exists_record_iff own, run_log]
  cases journal.record event with
  | ok later => exact iff_of_true ⟨later, rfl⟩ ⟨later, rfl⟩
  | error fault =>
      refine iff_of_false ?_ ?_ <;> rintro ⟨later, impossible⟩ <;> cases impossible

/-- An event whose own fields keep off the keys of the journal stops when it is not below the level
of the journal and its fields cannot be shown. -/
theorem run_log_of_not_showable {event : Event}
    (own : ∀ field ∈ event.fields, field.1 ∉ ownKeys) {journal : Journal}
    (level : journal.threshold ≤ event.level.gravity)
    (unshown : Value.entriesAreShowable event.fields = false) :
    (log event).run journal = (.error .integerTooLong, journal) := by
  cases outcome : (log event).run journal with
  | mk result later =>
      cases result with
      | ok =>
          have shown := (exists_run_log_iff own journal).mp ⟨later, outcome⟩ level
          rw [unshown] at shown
          cases shown
      | error fault =>
          obtain ⟨rfl, rfl⟩ := run_log_eq_error outcome
          rfl

/-- An event whose fields can be shown is recorded in any journal. -/
theorem exists_run_log (event : Event) (own : ∀ field ∈ event.fields, field.1 ∉ ownKeys)
    (showable : Value.entriesAreShowable event.fields = true) (journal : Journal) :
    ∃ later, (log event).run journal = (.ok (), later) :=
  (exists_run_log_iff own journal).mpr fun _ => showable

end Rulebook.Journal
