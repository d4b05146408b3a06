import Mathlib.Data.List.TakeWhile
import Rulebook.Path.Resolve

/-!
# Where paths lead

A path leads to a value or to the mark of a missing one, step by step.  The only steps that stop
are those into a sequence by a key that passes for digits and is no numeral: it has a digit sign
that is no decimal digit, or more digits than an integer is read from.  Without such a step the
path leads to what its keys denote.
-/

namespace Rulebook

/-! ## One step -/

namespace Numeral

/-- Digits are read as an index exactly when they are decimal ones and not too many. -/
theorem index?_eq_ok_iff {text : List Char} {position : Nat} :
    index? text = .ok position ↔
      text ≠ [] ∧ (∀ c ∈ text, Text.isDecimal c = true) ∧ text.length ≤ digitLimit ∧
        position = Text.decimalNumber text := by
  rw [index?]
  generalize digitLimit = limit
  by_cases all : ∀ c ∈ text, Text.isDecimal c = true
  · have whole : text.takeWhile Text.isDecimal = text := List.takeWhile_eq_self_iff.mpr all
    simp only [whole]
    split
    · rename_i long
      refine iff_of_false (by simp) fun ⟨_, _, short, _⟩ => ?_
      exact Nat.not_le_of_lt long short
    · rename_i short
      by_cases empty : text = []
      · simp [empty]
      · have given : (text.isEmpty || decide (text.length < text.length)) = false := by
          simp [empty]
        rw [if_neg (by rw [given]; exact Bool.false_ne_true), Except.ok.injEq]
        exact ⟨fun same => ⟨empty, all, Nat.le_of_not_lt short, same.symm⟩,
          fun ⟨_, _, _, same⟩ => same.symm⟩
  · have other : text.takeWhile Text.isDecimal ≠ text :=
      fun whole => all (List.takeWhile_eq_self_iff.mp whole)
    have less : (text.takeWhile Text.isDecimal).length < text.length := by
      refine Nat.lt_of_le_of_ne (List.takeWhile_prefix _).length_le fun same => ?_
      exact other ((List.takeWhile_prefix _).eq_of_length same)
    refine iff_of_false ?_ fun ⟨_, decimal, _⟩ => all decimal
    simp only [less, decide_true, Bool.or_true, if_true]
    split <;> exact nofun

end Numeral

namespace Value

/-- Whether a key is a numeral, in the digits of any script. -/
def isNumeralKey (key : String) : Bool := key ≠ "" && key.toList.all Text.isDecimal

/-- What a key denotes in a value: an entry of a mapping or, for a numeral, the element of a
sequence at that position; anything else is missing. -/
def denoted (current : Value) (key : String) : Value :=
  match current with
  | mapping entries => field key entries
  | list items | tuple items =>
      if isNumeralKey key then items[Text.decimalNumber key.toList]?.getD absent else absent
  | _ => absent

/-- Whether a step can be taken: into a sequence, a key that passes for digits has to be a numeral
that is not too long. -/
def AllowsStep (current : Value) (key : String) : Prop :=
  current.items?.isSome → isIndexKey key →
    isNumeralKey key ∧ key.toList.length ≤ Numeral.digitLimit

theorem isIndexKey_of_isNumeralKey {key : String} (numeral : isNumeralKey key = true) :
    isIndexKey key = true := by
  simp only [isNumeralKey, Bool.and_eq_true, decide_eq_true_eq, List.all_eq_true] at numeral
  obtain ⟨given, decimal⟩ := numeral
  simp only [isIndexKey, Bool.and_eq_true, Bool.not_eq_true', List.all_eq_true]
  refine ⟨by simpa using given, fun c member => ?_⟩
  rw [Text.isDigitLike, decimal c member, Bool.true_or]

theorem atIndex_eq_ok_iff {items : List Value} {key : String} {value : Value} :
    atIndex items key = .ok value ↔
      (isNumeralKey key ∧ key.toList.length ≤ Numeral.digitLimit) ∧
        value = items[Text.decimalNumber key.toList]?.getD absent := by
  have numeral : isNumeralKey key ↔
      key.toList ≠ [] ∧ ∀ c ∈ key.toList, Text.isDecimal c = true := by
    simp [isNumeralKey, List.all_eq_true]
  rw [atIndex, numeral]
  cases read : Numeral.index? key.toList with
  | ok position =>
      obtain ⟨given, decimal, short, rfl⟩ := Numeral.index?_eq_ok_iff.mp read
      simp only [Except.ok.injEq]
      exact ⟨fun same => ⟨⟨⟨given, decimal⟩, short⟩, same.symm⟩, fun same => same.2.symm⟩
  | error problem =>
      refine iff_of_false ?_ fun ⟨⟨⟨given, decimal⟩, short⟩, _⟩ => ?_
      · cases problem <;> exact nofun
      · rw [Numeral.index?_eq_ok_iff.mpr ⟨given, decimal, short, rfl⟩] at read
        cases read

/-- A step leads to what the key denotes, when it can be taken. -/
theorem child_eq_ok_iff {current value : Value} {key : String} :
    current.child key = .ok value ↔ current.AllowsStep key ∧ value = current.denoted key := by
  have intoSequence (items : List Value) :
      (if isIndexKey key then atIndex items key else .ok absent) = .ok value ↔
        (isIndexKey key → isNumeralKey key ∧ key.toList.length ≤ Numeral.digitLimit) ∧
          value = if isNumeralKey key then items[Text.decimalNumber key.toList]?.getD absent
            else absent := by
    by_cases index : isIndexKey key = true
    · rw [if_pos index, atIndex_eq_ok_iff]
      constructor
      · rintro ⟨numeral, rfl⟩
        exact ⟨fun _ => numeral, by rw [if_pos numeral.1]⟩
      · rintro ⟨allowed, rfl⟩
        exact ⟨allowed index, by rw [if_pos (allowed index).1]⟩
    · have other : ¬ isNumeralKey key = true :=
        fun numeral => index (isIndexKey_of_isNumeralKey numeral)
      rw [if_neg index, if_neg other, Except.ok.injEq]
      exact ⟨fun same => ⟨fun digits => (index digits).elim, same.symm⟩, fun same => same.2.symm⟩
  cases current with
  | list items => simpa [child, AllowsStep, denoted, items?] using intoSequence items
  | tuple items => simpa [child, AllowsStep, denoted, items?] using intoSequence items
  | _ =>
      constructor
      · intro same
        exact ⟨fun given => (Bool.false_ne_true given).elim, (Except.ok.inj same).symm⟩
      · intro same
        exact congrArg _ same.2.symm

end Value

/-! ## All steps -/

namespace Path

/-- What the keys of a path denote, one after the other. -/
def lookUp (representative : Bool) : Path → Value → Value
  | [], current => current
  | segment :: rest, current =>
      lookUp representative rest
        (representativeOf representative rest.isEmpty (current.denoted segment.key))

/-- The value that further steps are taken from, behind the first steps of a path. -/
def reached (representative : Bool) (front : Path) (document : Value) : Value :=
  front.foldl (fun current segment =>
    representativeOf representative false (current.denoted segment.key)) document

theorem representativeOf_of_single {value : Value} (single : value.items? = none)
    (representative isLast : Bool) : representativeOf representative isLast value = value := by
  rw [representativeOf, single]
  exact ite_self value

theorem representativeOf_absent (representative isLast : Bool) :
    representativeOf representative isLast .absent = .absent := by
  cases representative <;> cases isLast <;> rfl

/-- The value at the end of a path is not represented. -/
theorem representativeOf_last (representative : Bool) (value : Value) :
    representativeOf representative true value = value := by
  cases representative <;> rfl

theorem resolve_absent (representative : Bool) (path : Path) :
    path.resolve representative .absent = .ok .absent := by
  cases path with
  | nil => rfl
  | cons segment path => cases representative <;> cases path <;> rfl

theorem eq_absent_of_isAbsent {value : Value} (missing : value.isAbsent = true) :
    value = .absent := by
  cases value <;> first | rfl | cases missing

/-- The further steps are taken from where a step leads.  The walk ends early where that is
nowhere, but nothing would be found behind it anyway. -/
theorem resolve_cons (representative : Bool) (segment : Segment) (path : Path) (current : Value) :
    resolve representative (segment :: path) current =
      current.child segment.key >>= fun value =>
        path.resolve representative (representativeOf representative path.isEmpty value) := by
  rw [resolve]
  refine bind_congr fun value => ?_
  generalize representativeOf representative path.isEmpty value = next
  dsimp only
  split
  · rename_i missing
    rw [eq_absent_of_isAbsent missing, resolve_absent]
  · rfl

theorem reached_cons (representative : Bool) (segment : Segment) (front : Path)
    (document : Value) :
    reached representative (segment :: front) document =
      reached representative front
        (representativeOf representative false (document.denoted segment.key)) := rfl

theorem reached_concat (representative : Bool) (front : Path) (segment : Segment)
    (document : Value) :
    reached representative (front ++ [segment]) document =
      representativeOf representative false
        ((reached representative front document).denoted segment.key) := by
  rw [reached, List.foldl_append]
  rfl

/-- The last step leads to what its key denotes, as it is. -/
theorem lookUp_concat (representative : Bool) (front : Path) (segment : Segment)
    (document : Value) :
    lookUp representative (front ++ [segment]) document =
      (reached representative front document).denoted segment.key := by
  induction front generalizing document with
  | nil => cases representative <;> rfl
  | cons first front ih =>
      have further : (front ++ [segment]).isEmpty = false := by cases front <;> rfl
      rw [List.cons_append, lookUp, further, ih, reached_cons]

/-- Whether every step of a path can be taken from the value that it is taken from. -/
def AllowsSteps (representative : Bool) (path : Path) (document : Value) : Prop :=
  ∀ front segment rest, path = front ++ segment :: rest →
    (reached representative front document).AllowsStep segment.key

theorem allowsSteps_nil (representative : Bool) (document : Value) :
    AllowsSteps representative [] document := by
  intro front segment rest split
  cases front <;> cases split

/-- The steps of a path are its first one and the others, which are taken from where the first one
leads. -/
theorem allowsSteps_cons {representative : Bool} {segment : Segment} {path : Path}
    {document : Value} :
    AllowsSteps representative (segment :: path) document ↔
      document.AllowsStep segment.key ∧ AllowsSteps representative path
        (representativeOf representative path.isEmpty (document.denoted segment.key)) := by
  constructor
  · intro allowed
    refine ⟨allowed [] segment path rfl, fun front later rest split => ?_⟩
    have further : path.isEmpty = false := by
      rw [split]
      cases front <;> rfl
    have step := allowed (segment :: front) later rest (by rw [split, List.cons_append])
    rwa [reached_cons, ← further] at step
  · rintro ⟨here, allowed⟩ front later rest split
    cases front with
    | nil =>
        cases split
        exact here
    | cons first front =>
        obtain ⟨rfl, behind⟩ := List.cons_eq_cons.mp split
        have further : path.isEmpty = false := by
          rw [behind]
          cases front <;> rfl
        rw [reached_cons, ← further]
        exact allowed front later rest behind

theorem resolve_eq_ok_iff {representative : Bool} {path : Path} {document value : Value} :
    path.resolve representative document = .ok value ↔
      path.AllowsSteps representative document ∧ value = path.lookUp representative document := by
  induction path generalizing document with
  | nil =>
      rw [resolve, lookUp, Except.ok.injEq]
      exact ⟨fun same => ⟨allowsSteps_nil representative document, same.symm⟩,
        fun same => same.2.symm⟩
  | cons segment path ih =>
      rw [allowsSteps_cons, lookUp, resolve_cons]
      cases step : document.child segment.key with
      | error fault =>
          refine iff_of_false nofun fun ⟨⟨here, _⟩, _⟩ => ?_
          rw [Value.child_eq_ok_iff.mpr ⟨here, rfl⟩] at step
          cases step
      | ok next =>
          obtain ⟨here, rfl⟩ := Value.child_eq_ok_iff.mp step
          refine ih.trans ?_
          rw [and_assoc, and_iff_right here]

/-! ## Documents for a path -/

/-- A document in which a path leads to a value. -/
def documentAt : Path → Value → Value
  | [], value => value
  | segment :: rest, value => .mapping [(segment.key, documentAt rest value)]

theorem child_documentAt (segment : Segment) (rest : Path) (value : Value) (key : String) :
    (documentAt (segment :: rest) value).child key =
      .ok (if key = segment.key then documentAt rest value else .absent) := by
  rw [documentAt, Value.child, Value.field]
  by_cases same : key = segment.key
  · rw [if_pos same, same, List.lookup_cons_self]
    rfl
  · rw [if_neg same, List.lookup_cons, beq_false_of_ne same]
    rfl

theorem representativeOf_documentAt (representative : Bool) (path : Path) (value : Value) :
    representativeOf representative path.isEmpty (documentAt path value) =
      documentAt path value := by
  cases path <;> cases representative <;> rfl

theorem resolve_documentAt (representative : Bool) (path : Path) (value : Value) :
    path.resolve representative (documentAt path value) = .ok value := by
  induction path with
  | nil => rfl
  | cons segment rest ih =>
      have found := child_documentAt segment rest value segment.key
      rw [if_pos rfl] at found
      rw [resolve_cons, found]
      change resolve _ _ (representativeOf representative rest.isEmpty (documentAt rest value)) = _
      rw [representativeOf_documentAt]
      exact ih

/-- A path that leads to the value of a document that has nothing else has the keys that lead
there. -/
theorem keys_of_resolve_documentAt {representative : Bool} {path other : Path}
    (found : other.resolve representative (documentAt path (.bool true)) = .ok (.bool true)) :
    other.map Segment.key = path.map Segment.key := by
  induction path generalizing other with
  | nil =>
      cases other with
      | nil => rfl
      | cons segment rest => cases representative <;> cases rest <;> cases found
  | cons segment path ih =>
      cases other with
      | nil => cases found
      | cons next rest =>
          rw [resolve_cons, child_documentAt] at found
          change resolve _ _ (representativeOf _ _ _) = _ at found
          by_cases same : next.key = segment.key
          · have single : (documentAt path (.bool true)).items? = none := by cases path <;> rfl
            rw [if_pos same, representativeOf_of_single single] at found
            rw [List.map_cons, List.map_cons, same, ih found]
          · rw [if_neg same, representativeOf_absent, resolve_absent] at found
            cases found

/-- A written path leads to what its keys denote exactly when no step into a sequence is by a key
that passes for digits without being a numeral of at most 4300 digits; else it leads to nothing. -/
theorem resolve_parse_eq_ok_iff (text : String) (representative : Bool) (document value : Value) :
    (parse text).resolve representative document = .ok value ↔
      (∀ front segment rest, parse text = front ++ segment :: rest →
        (reached representative front document).AllowsStep segment.key) ∧
      value = (parse text).lookUp representative document :=
  resolve_eq_ok_iff

/-- A digit sign is no numeral, and a step by it stops. -/
theorem not_forall_exists_resolve :
    ¬ ∀ (text : String) (representative : Bool) (document : Value),
      ∃ value, (parse text).resolve representative document = .ok value := by
  intro law
  obtain ⟨value, resolved⟩ := law "²" false (.list [.int 1, .int 2])
  have stops : (parse "²").resolve false (.list [.int 1, .int 2]) = .error (.badIndex "²") := rfl
  rw [stops] at resolved
  cases resolved

end Path

end Rulebook
