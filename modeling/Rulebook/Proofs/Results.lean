import Mathlib.Data.List.Forall2

/-!
# Results of computations

When a computation that may stop with a problem comes to a result: each of its steps does.  When it
stops: one of its steps does, after those before it.
-/

namespace Rulebook

theorem Except.bind_eq_ok {ε α β : Type} {first : Except ε α} {next : α → Except ε β}
    {result : β} :
    (first >>= next) = .ok result ↔ ∃ value, first = .ok value ∧ next value = .ok result := by
  cases first with
  | error problem => simp [bind, Except.bind]
  | ok value => simp [bind, Except.bind]

theorem Except.bind_eq_error {ε α β : Type} {first : Except ε α} {next : α → Except ε β}
    {problem : ε} :
    (first >>= next) = .error problem ↔
      first = .error problem ∨ ∃ value, first = .ok value ∧ next value = .error problem := by
  cases first with
  | error problem => simp [bind, Except.bind]
  | ok value => simp [bind, Except.bind]

theorem Except.exists_of_isOk {ε α : Type} {result : Except ε α} (found : result.isOk = true) :
    ∃ value, result = .ok value := by
  cases result with
  | error problem => cases found
  | ok value => exact ⟨value, rfl⟩

theorem Except.map_eq_ok {ε α β : Type} {first : Except ε α} {change : α → β} {result : β} :
    first.map change = .ok result ↔ ∃ value, first = .ok value ∧ change value = result := by
  cases first with
  | error problem => simp [Except.map]
  | ok value => simp [Except.map]

theorem Except.map_eq_error {ε α β : Type} {first : Except ε α} {change : α → β} {problem : ε} :
    first.map change = .error problem ↔ first = .error problem := by
  cases first with
  | error problem => simp [Except.map]
  | ok value => simp [Except.map]

theorem Except.mapM_eq_ok {ε α β : Type} {step : α → Except ε β} {items : List α}
    {results : List β} :
    items.mapM step = .ok results ↔
      List.Forall₂ (fun item result => step item = .ok result) items results := by
  induction items generalizing results with
  | nil =>
      rw [List.mapM_nil, List.forall₂_nil_left_iff]
      exact ⟨fun same => (Except.ok.inj same).symm, fun same => same ▸ rfl⟩
  | cons item items ih =>
      rw [List.mapM_cons, Except.bind_eq_ok]
      constructor
      · rintro ⟨result, first, rest⟩
        obtain ⟨others, later, same⟩ := Except.bind_eq_ok.mp rest
        cases same
        exact .cons first (ih.mp later)
      · rintro (_ | ⟨first, later⟩)
        exact ⟨_, first, Except.bind_eq_ok.mpr ⟨_, ih.mpr later, rfl⟩⟩

/-- Every member of the second of two lists that are related position by position is related to
some member of the first. -/
theorem exists_related_of_mem {α β : Type} {related : α → β → Prop} {items : List α}
    {results : List β} (each : List.Forall₂ related items results) {result : β}
    (member : result ∈ results) : ∃ item ∈ items, related item result := by
  induction each with
  | nil => cases member
  | @cons item first items results here _ ih =>
      rcases List.mem_cons.mp member with rfl | member
      · exact ⟨item, List.mem_cons_self, here⟩
      · obtain ⟨item, among, found⟩ := ih member
        exact ⟨item, List.mem_cons_of_mem _ among, found⟩

/-- The steps of a computation with a state go on from the state that the step before leaves. -/
theorem ExceptT.bind_eq_ok {ε σ α β : Type} {first : ExceptT ε (StateM σ) α}
    {next : α → ExceptT ε (StateM σ) β} {result : β} {state last : σ} :
    (first >>= next).run state = (.ok result, last) ↔
      ∃ value between, first.run state = (.ok value, between) ∧
        (next value).run between = (.ok result, last) := by
  change StateT.bind first.run (ExceptT.bindCont next) state = _ ↔ _
  simp only [StateT.bind, bind]
  rcases first.run state with ⟨problem | value, between⟩
  · constructor
    · intro impossible
      cases impossible
    · rintro ⟨value, between, impossible, -⟩
      cases impossible
  · constructor
    · intro rest
      exact ⟨value, between, rfl, rest⟩
    · rintro ⟨value, between, same, rest⟩
      cases same
      exact rest

/-- A step that may stop leaves the state as it is. -/
theorem ExceptT.bind_liftM_eq_ok {ε σ α β : Type} {first : Except ε α}
    {next : α → ExceptT ε (StateM σ) β} {result : β} {state last : σ} :
    (liftM first >>= next).run state = (.ok result, last) ↔
      ∃ value, first = .ok value ∧ (next value).run state = (.ok result, last) := by
  cases first with
  | error problem =>
      constructor
      · intro impossible
        cases impossible
      · rintro ⟨value, impossible, -⟩
        cases impossible
  | ok value =>
      constructor
      · intro rest
        exact ⟨value, rfl, rest⟩
      · rintro ⟨value, same, rest⟩
        cases same
        exact rest

theorem ExceptT.bind_eq_error {ε σ α β : Type} {first : ExceptT ε (StateM σ) α}
    {next : α → ExceptT ε (StateM σ) β} {problem : ε} {state last : σ} :
    (first >>= next).run state = (.error problem, last) ↔
      first.run state = (.error problem, last) ∨
        ∃ value between, first.run state = (.ok value, between) ∧
          (next value).run between = (.error problem, last) := by
  change StateT.bind first.run (ExceptT.bindCont next) state = _ ↔ _
  simp only [StateT.bind, bind]
  rcases first.run state with ⟨stopped | value, between⟩
  · constructor
    · intro done
      cases done
      exact .inl rfl
    · rintro (same | ⟨value, between, impossible, -⟩)
      · cases same
        rfl
      · cases impossible
  · constructor
    · intro rest
      exact .inr ⟨value, between, rfl, rest⟩
    · rintro (impossible | ⟨value, between, same, rest⟩)
      · cases impossible
      · cases same
        exact rest

/-! ## Kinds of problems -/

/-- Whether a computation stops only with problems of a kind. -/
def StopsOnly {ε α : Type} (allowed : ε → Prop) (result : Except ε α) : Prop :=
  ∀ problem, result = .error problem → allowed problem

namespace StopsOnly

variable {ε α β : Type} {allowed : ε → Prop}

@[simp]
theorem ok (value : α) : StopsOnly allowed (.ok value) :=
  fun _ impossible => by cases impossible

@[simp]
theorem error_iff {problem : ε} :
    StopsOnly allowed (.error problem : Except ε α) ↔ allowed problem :=
  ⟨fun stops => stops problem rfl, fun fits other same => by cases same; exact fits⟩

theorem bind {first : Except ε α} {next : α → Except ε β} (one : StopsOnly allowed first)
    (others : ∀ value, first = .ok value → StopsOnly allowed (next value)) :
    StopsOnly allowed (first >>= next) := by
  intro problem stopped
  rcases Except.bind_eq_error.mp stopped with here | ⟨value, done, later⟩
  · exact one problem here
  · exact others value done problem later

theorem map {result : Except ε α} (stops : StopsOnly allowed result) (change : α → β) :
    StopsOnly allowed (result.map change) := by
  cases result with
  | error problem => exact error_iff.mpr (stops problem rfl)
  | ok value => exact ok _

theorem mapM {items : List α} {step : α → Except ε β}
    (each : ∀ item ∈ items, StopsOnly allowed (step item)) :
    StopsOnly allowed (items.mapM step) := by
  induction items with
  | nil => exact ok _
  | cons item items ih =>
      obtain ⟨here, later⟩ := List.forall_mem_cons.mp each
      rw [List.mapM_cons]
      exact here.bind fun _ _ => (ih later).bind fun _ _ => ok _

/-- A value that may be missing, with a computation for either case. -/
theorem elim {value : Option α} {missing : Except ε β} {found : α → Except ε β}
    (none : StopsOnly allowed missing) (some : ∀ given, StopsOnly allowed (found given)) :
    StopsOnly allowed (value.elim missing found) := by
  cases value with
  | none => exact none
  | some given => exact some given

end StopsOnly

end Rulebook
