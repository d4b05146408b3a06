import Mathlib.Data.Finset.Card
import Mathlib.Data.Finset.Range
import Rulebook.Proofs.Evaluation.Steps

/-!
# Satisfaction

What it means for a document to satisfy a rule, said without traces: groups by their children,
conditions by their operator, and array rules by the set of positions whose elements satisfy the
predicate.  The evaluator, which counts failures and collects positions on its way, finds exactly
this whenever it finds anything.
-/

namespace Rulebook

/-- Whether a condition holds of a document: its path has no mark, and the operator matches the
value that the path leads to. -/
def Condition.holds (condition : Condition) (settings : Settings) (document : Value) : Bool :=
  match Path.ofValue condition.path with
  | .ok path =>
      path.isConcrete && (path.resolve false document).toOption.any fun candidate =>
        (condition.operator.applyTo condition.type (condition.operands settings.listDelimiter)
          candidate).toOption.any Outcome.matched
  | .error _ => false

/-- The elements of the sequence that a path leads to, when no step but the last is marked. -/
def sequenceAt? (path document : Value) : Option (List Value) :=
  match Path.ofValue path with
  | .ok path =>
      if path.dropLast.any Segment.isMarked then none
      else (path.resolve false document).toOption.bind Value.items?
  | .error _ => none

/-- The positions of the elements that pass a test. -/
def positionsWhere (elements : List Value) (test : Value → Bool) : Finset Nat :=
  (Finset.range elements.length).filter fun position => elements[position]?.any test

/-- What a quantifier asks of the set of matching positions of a sequence. -/
def Quantifier.accepts (quantifier : Quantifier) (total : Nat) (matching : Finset Nat) : Bool :=
  match quantifier with
  | any => 0 < matching.card
  | all => matching.card = total
  | none => matching.card = 0
  | countAtLeast count => count ≤ matching.card
  | countExactly count => matching.card = count
  | countAtMost count => matching.card ≤ count
  | index position => position < total ∧ position ∈ matching

namespace RuleNode

mutual

/-- Whether a document satisfies a rule. -/
def satisfies (settings : Settings) : RuleNode → (document : Value) → Bool
  | group _ logic children, document =>
      !children.isEmpty && match logic with
        | .and => satisfiesEvery settings children document
        | .or => satisfiesSome settings children document
  | scalar _ condition, document => condition.holds settings document
  | array _ path quantifier _ logic predicate, document =>
      (sequenceAt? path document).any fun elements =>
        quantifier.accepts elements.length <| positionsWhere elements fun element =>
          !predicate.isEmpty && match logic with
            | .and => satisfiesEvery settings predicate element
            | .or => satisfiesSome settings predicate element

/-- Whether a document satisfies all of several rules. -/
def satisfiesEvery (settings : Settings) : List RuleNode → (document : Value) → Bool
  | [], _ => true
  | node :: rest, document =>
      satisfies settings node document && satisfiesEvery settings rest document

/-- Whether a document satisfies one of several rules. -/
def satisfiesSome (settings : Settings) : List RuleNode → (document : Value) → Bool
  | [], _ => false
  | node :: rest, document =>
      satisfies settings node document || satisfiesSome settings rest document

end

theorem satisfiesEvery_eq_all (settings : Settings) (children : List RuleNode)
    (document : Value) :
    satisfiesEvery settings children document =
      children.all fun child => child.satisfies settings document := by
  induction children with
  | nil => rfl
  | cons child rest ih => rw [satisfiesEvery, ih, List.all_cons]

theorem satisfiesSome_eq_any (settings : Settings) (children : List RuleNode)
    (document : Value) :
    satisfiesSome settings children document =
      children.any fun child => child.satisfies settings document := by
  induction children with
  | nil => rfl
  | cons child rest ih => rw [satisfiesSome, ih, List.any_cons]

/-- A group combines what its children find, whatever it is called. -/
theorem satisfies_group (settings : Settings) (id : String) (logic : Logic)
    (children : List RuleNode) (document : Value) :
    (group id logic children).satisfies settings document =
      logic.holds (children.map fun child => child.satisfies settings document) := by
  cases logic with
  | and => simp [satisfies, satisfiesEvery_eq_all, Logic.holds, Function.comp_def]
  | or =>
      cases children with
      | nil => rfl
      | cons child rest => simp [satisfies, satisfiesSome_eq_any, Logic.holds, Function.comp_def]

/-- An array rule asks its quantifier about the positions where the predicate holds as a group. -/
theorem satisfies_array (settings : Settings) (id : String) (path : Value)
    (quantifier : Quantifier) (predicateId : String) (predicateLogic : Logic)
    (predicate : List RuleNode) (document : Value) :
    (array id path quantifier predicateId predicateLogic predicate).satisfies settings document =
      (sequenceAt? path document).any fun elements =>
        quantifier.accepts elements.length <| positionsWhere elements
          ((group predicateId predicateLogic predicate).satisfies settings) := by
  rw [satisfies]
  rfl

end RuleNode

/-! ## Conditions and sequences -/

theorem Condition.result_of_evaluate {condition : Condition} {settings : Settings} {id : String}
    {document : Value} {trace : Trace}
    (evaluated : condition.evaluate settings id document = .ok trace) :
    trace.result = condition.holds settings document := by
  obtain ⟨path, read, rest⟩ := Except.bind_eq_ok.mp evaluated
  cases concrete : path.isConcrete with
  | false =>
      rw [if_pos (by simp [concrete])] at rest
      cases rest
      simp [holds, read, concrete, Trace.ofOutcome]
  | true =>
      rw [if_neg (by simp [concrete])] at rest
      obtain ⟨candidate, resolved, rest⟩ := Except.bind_eq_ok.mp rest
      obtain ⟨outcome, applied, made⟩ := Except.bind_eq_ok.mp rest
      cases made
      simp [holds, read, resolved, applied, concrete, Except.toOption, Trace.ofOutcome]

theorem sequenceAt?_of_elements {path document : Value} {elements : List Value}
    (reached : arrayElements path document = .ok (.ok elements)) :
    sequenceAt? path document = some elements := by
  obtain ⟨steps, read, rest⟩ := Except.bind_eq_ok.mp reached
  rw [sequenceAt?, read]
  split at rest
  · cases rest
  · rename_i unmarked
    obtain ⟨value, resolved, found⟩ := Except.bind_eq_ok.mp rest
    simp only [unmarked, resolved, Except.toOption, Option.bind]
    cases value <;> cases found <;> rfl

theorem sequenceAt?_of_failing {path document : Value} {failing : Failing}
    (reached : arrayElements path document = .ok (.error failing)) :
    sequenceAt? path document = none := by
  obtain ⟨steps, read, rest⟩ := Except.bind_eq_ok.mp reached
  rw [sequenceAt?, read]
  split at rest
  · rename_i marked
    simp [marked]
  · rename_i unmarked
    obtain ⟨value, resolved, found⟩ := Except.bind_eq_ok.mp rest
    simp only [unmarked, resolved, Except.toOption, Option.bind]
    cases value <;> cases found <;> rfl

/-! ## Positions -/

theorem filter_zipIdx_positions (elements : List Value) (test : Value → Bool) (start : Nat) :
    ((elements.zipIdx start).filter fun entry => test entry.1).map (·.2) =
      (List.range' start elements.length).filter fun position =>
        elements[position - start]?.any test := by
  induction elements generalizing start with
  | nil => rfl
  | cons element elements ih =>
      have later : (List.range' (start + 1) elements.length).filter
            (fun position => (element :: elements)[position - start]?.any test) =
          (List.range' (start + 1) elements.length).filter
            (fun position => elements[position - (start + 1)]?.any test) := by
        apply List.filter_congr
        intro position member
        obtain ⟨offset, rfl⟩ : ∃ offset, position = start + 1 + offset :=
          Nat.exists_eq_add_of_le (List.mem_range'_1.mp member).1
        rw [show start + 1 + offset - start = offset + 1 by omega,
          show start + 1 + offset - (start + 1) = offset by omega]
        rfl
      rw [List.zipIdx_cons, List.length_cons, List.range'_succ, List.filter_cons,
        List.filter_cons, later, ← ih (start + 1)]
      simp only [Nat.sub_self, List.getElem?_cons_zero, Option.any_some]
      split <;> rfl

theorem card_positionsWhere (elements : List Value) (test : Value → Bool) :
    (positionsWhere elements test).card =
      ((elements.zipIdx.filter fun entry => test entry.1).map (·.2)).length := by
  rw [filter_zipIdx_positions, ← List.range_eq_range']
  change ((List.range elements.length).filter fun position =>
    decide (elements[position]?.any test = true)).length = _
  simp only [Bool.decide_eq_true, Nat.sub_zero]

theorem mem_positionsWhere {elements : List Value} {test : Value → Bool} {position : Nat} :
    position ∈ positionsWhere elements test ↔
      ∃ element, elements[position]? = some element ∧ test element = true := by
  rw [positionsWhere, Finset.mem_filter, Finset.mem_range, Option.any_eq_true]
  constructor
  · rintro ⟨-, found⟩
    exact found
  · rintro ⟨element, at_position, passes⟩
    exact ⟨(List.getElem?_eq_some_iff.mp at_position).1, element, at_position, passes⟩

/-- The positions that are collected from the traces of elements are those of the elements that
pass, in order. -/
theorem matchedPositions_eq {test : Value → Bool} {entries : List (Value × Nat)}
    {traces : List Trace}
    (tested : List.Forall₂ (fun entry trace =>
      trace.result = test entry.1 ∧ trace.index = some entry.2) entries traces) :
    Trace.matchedPositions traces = (entries.filter fun entry => test entry.1).map (·.2) := by
  induction tested with
  | nil => rfl
  | @cons entry trace entries traces here _ ih =>
      obtain ⟨result, index⟩ := here
      unfold Trace.matchedPositions at ih ⊢
      rw [List.filter_cons, List.filter_cons, result]
      cases test entry.1 with
      | false => simpa using ih
      | true => simpa [index] using ih

/-- The verdict over the number of collected positions is the one over the set of all matching
positions. -/
theorem Quantifier.holds_eq_accepts (quantifier : Quantifier) (elements : List Value)
    (test : Value → Bool) :
    quantifier.holds elements.length
        (((quantifier.selected elements).filter fun entry => test entry.1).map (·.2)).length =
      quantifier.accepts elements.length (positionsWhere elements test) := by
  cases quantifier with
  | index position =>
      have membership : position ∈ positionsWhere elements test ↔ _ := mem_positionsWhere
      rw [Quantifier.holds, Quantifier.accepts, Quantifier.selected]
      by_cases inside : position < elements.length
      · rw [List.getElem?_eq_getElem inside] at membership ⊢
        cases passes : test elements[position] <;> simp [inside, membership, passes]
      · simp [inside]
  | _ =>
      simp only [Quantifier.selected, ← card_positionsWhere]
      rfl

/-! ## The evaluator -/

namespace RuleNode

theorem evaluateElement_eq_ok {settings : Settings} {id : String} {logic : Logic}
    {predicate : List RuleNode} {entry : Value × Nat} {trace : Trace} :
    evaluateElement settings id logic predicate entry = .ok trace ↔
      ∃ group, evaluate settings (.group id logic predicate) entry.1 = .ok group ∧
        trace = { group with index := some entry.2 } := by
  rw [evaluateElement, evaluate_group, Except.map_eq_ok]
  constructor
  · rintro ⟨children, evaluated, rfl⟩
    exact ⟨_, Except.map_eq_ok.mpr ⟨children, evaluated, rfl⟩, rfl⟩
  · rintro ⟨group, evaluated, rfl⟩
    obtain ⟨children, found, rfl⟩ := Except.map_eq_ok.mp evaluated
    exact ⟨children, found, rfl⟩

theorem result_of_evaluate_group {settings : Settings} {id : String} {logic : Logic}
    {children : List RuleNode} {document : Value} {trace : Trace}
    (childResults : ∀ child ∈ children, ∀ trace,
      child.evaluate settings document = .ok trace →
        trace.result = child.satisfies settings document)
    (evaluated : (group id logic children).evaluate settings document = .ok trace) :
    trace.result = (group id logic children).satisfies settings document := by
  rw [evaluate_group, Except.map_eq_ok] at evaluated
  obtain ⟨traces, evaluated, rfl⟩ := evaluated
  have results : traces.map (·.result) =
      children.map fun child => child.satisfies settings document := by
    have steps := evaluateAll_eq_ok.mp evaluated
    clear evaluated
    induction steps with
    | nil => rfl
    | @cons child trace children traces here _ ih =>
        rw [List.map_cons, List.map_cons, childResults child (by simp) trace here,
          ih fun child member => childResults child (List.mem_cons_of_mem _ member)]
  rw [satisfies_group, ← results]
  rfl

/-- Whenever evaluation gives a trace, the trace holds exactly when the document satisfies the
rule. -/
theorem evaluate_result_eq_satisfies (settings : Settings) (node : RuleNode) (document : Value)
    (trace : Trace) (evaluated : node.evaluate settings document = .ok trace) :
    trace.result = node.satisfies settings document := by
  induction node generalizing document trace with
  | scalar id condition =>
      rw [evaluate] at evaluated
      rw [satisfies]
      exact Condition.result_of_evaluate evaluated
  | group id logic children ih =>
      exact result_of_evaluate_group (fun child member => ih child member document) evaluated
  | array id path quantifier predicateId predicateLogic predicate ih =>
      rw [satisfies_array]
      rcases evaluate_array_eq_ok.mp evaluated with
        ⟨failing, reached, rfl⟩ | ⟨elements, traces, reached, steps, made⟩
      · rw [sequenceAt?_of_failing reached]
        rfl
      · rw [sequenceAt?_of_elements reached, Option.any_some]
        have tested : List.Forall₂ (fun entry trace =>
            trace.result = (group predicateId predicateLogic predicate).satisfies settings entry.1 ∧
              trace.index = some entry.2) (quantifier.selected elements) traces := by
          refine steps.imp fun entry trace step => ?_
          obtain ⟨found, evaluated, rfl⟩ := evaluateElement_eq_ok.mp step
          have result := result_of_evaluate_group
            (fun child member => ih child member entry.1) evaluated
          exact ⟨result, rfl⟩
        obtain ⟨failing, -, rest⟩ := Except.bind_eq_ok.mp made
        cases rest
        rw [← Quantifier.holds_eq_accepts, ← matchedPositions_eq tested]

/-- Some skill has a level of at least 4, and the second tag is `b`; the group without children
among the alternatives never holds. -/
def skillRule : RuleNode :=
  .group "r1" .and
    [.array "r2" (.text "skills[]") .any "r3" .or
      [.scalar "r4"
        { path := .text "level", type := .number, operator := .gte, value := .int 4
          value2 := .null, legal := rfl },
        .group "r5" .and []],
      .array "r6" (.text "tags") (.index 1) "r7" .and
        [.scalar "r8"
          { path := .text "", type := .string, operator := .eq, value := .text "b"
            value2 := .null, legal := rfl }]]

/-- A profile of two skills, the second of which is good enough, and two tags. -/
def skillProfile : Value :=
  .mapping
    [("skills", .list [.mapping [("level", .int 3)], .mapping [("level", .int 5)]]),
      ("tags", .tuple [.text "a", .text "b"])]

theorem evaluate_skillRule :
    ∃ trace, skillRule.evaluate {} skillProfile = .ok trace ∧
      trace.result = skillRule.satisfies {} skillProfile ∧
        skillRule.satisfies {} skillProfile = true := by
  have finds : (skillRule.evaluate {} skillProfile).isOk = true := by decide +kernel
  cases evaluated : skillRule.evaluate {} skillProfile with
  | error fault => simp [evaluated, Except.isOk, Except.toBool] at finds
  | ok trace =>
      have result := evaluate_result_eq_satisfies {} skillRule skillProfile trace evaluated
      exact ⟨trace, rfl, result, by decide +kernel⟩

end RuleNode

end Rulebook
