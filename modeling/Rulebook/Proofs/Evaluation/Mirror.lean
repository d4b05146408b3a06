import Rulebook.Proofs.Evaluation.Satisfaction

/-!
# Traces as mirrors of rules

A trace that keeps the traces of elements has the shape of its rule at every level: each node shows
which node of the rule it is about, the nodes below it are the traces of what stands below that
node, and its verdict can be found again from theirs.
-/

namespace Rulebook

/-- What a node shows of itself in a trace. -/
structure NodeLabel where
  kind : String
  id : String
  path : Value := .null
  logic : Option String := none
  quantifier : Option String := none

/-- What a trace says about the node that it is for. -/
def Trace.label (trace : Trace) : NodeLabel :=
  { kind := trace.kind, id := trace.nodeId, path := trace.path, logic := trace.logic
    quantifier := trace.quantifier }

/-- What a trace has to say about a node. -/
def RuleNode.label : RuleNode → NodeLabel
  | group id logic _ => { kind := groupKind, id, logic := some logic.name }
  | scalar id condition => { kind := scalarKind, id, path := condition.path }
  | array id path quantifier .. =>
      { kind := arrayKind, id, path, quantifier := some quantifier.name }

/-- The verdict of a group, from the traces of its children alone. -/
def Logic.verdict (logic : Logic) (children : List Trace) : Bool :=
  match logic with
  | and => !children.isEmpty && children.all (·.result)
  | or => children.any (·.result)

namespace Quantifier

/-- The verdict of a quantifier, from the traces of elements alone. -/
def verdict (quantifier : Quantifier) (elements : List Trace) : Bool :=
  match quantifier with
  | any | index _ => elements.any (·.result)
  | all => elements.all (·.result)
  | none => !elements.any (·.result)
  | countAtLeast count => count ≤ elements.countP (·.result)
  | countExactly count => elements.countP (·.result) = count
  | countAtMost count => elements.countP (·.result) ≤ count

/-- The positions that a quantifier asks about in a sequence: all of them, or the one it names when
the sequence has it. -/
def positions (quantifier : Quantifier) (total : Nat) : List Nat :=
  match quantifier with
  | index position => if position < total then [position] else []
  | _ => List.range total

end Quantifier

/-- Whether a trace is the one of a group on the element at a position of a sequence. -/
def RuleNode.ShowsElement (settings : Settings) (group : RuleNode) (elements : List Value)
    (position : Nat) (below : Trace) : Prop :=
  ∃ element found, elements[position]? = some element ∧
    group.evaluate settings element = .ok found ∧ below = { found with index := some position }

open RuleNode in
/-- Whether a trace mirrors a rule that was evaluated on a document. -/
inductive Mirrors (settings : Settings) : RuleNode → (document : Value) → Trace → Prop where
  | group {id : String} {logic : Logic} {children : List RuleNode} {document : Value}
      {trace : Trace}
      (labelled : trace.label = (group id logic children).label)
      (each : List.Forall₂ (fun child below => child.evaluate settings document = .ok below)
        children trace.children)
      (deeper : ∀ child below, (child, below) ∈ children.zip trace.children →
        Mirrors settings child document below)
      (decided : trace.result = logic.verdict trace.children) :
      Mirrors settings (group id logic children) document trace
  | scalar {id : String} {condition : Condition} {document : Value} {trace : Trace}
      (labelled : trace.label = (scalar id condition).label)
      (leaf : trace.children = []) :
      Mirrors settings (scalar id condition) document trace
  /-- There is no sequence to go through. -/
  | unreached {id : String} {path : Value} {quantifier : Quantifier} {predicateId : String}
      {predicateLogic : Logic} {predicate : List RuleNode} {document : Value} {trace : Trace}
      (missing : sequenceAt? path document = none)
      (labelled : trace.label =
        (array id path quantifier predicateId predicateLogic predicate).label)
      (leaf : trace.children = [])
      (unmatched : trace.matchedIndices = some [])
      (failed : trace.result = false) :
      Mirrors settings (array id path quantifier predicateId predicateLogic predicate) document
        trace
  /-- Each position that the quantifier asks about has the trace of the predicate on the element
  there. -/
  | array {id : String} {path : Value} {quantifier : Quantifier} {predicateId : String}
      {predicateLogic : Logic} {predicate : List RuleNode} {document : Value} {trace : Trace}
      {elements : List Value}
      (reached : sequenceAt? path document = some elements)
      (labelled : trace.label =
        (array id path quantifier predicateId predicateLogic predicate).label)
      (each : List.Forall₂
        (ShowsElement settings (group predicateId predicateLogic predicate) elements)
        (quantifier.positions elements.length) trace.children)
      (deeper : ∀ position element below, elements[position]? = some element →
        (position, below) ∈ (quantifier.positions elements.length).zip trace.children →
          Mirrors settings (group predicateId predicateLogic predicate) element below)
      (matched : trace.matchedIndices = some (Trace.matchedPositions trace.children))
      (increasing : (Trace.matchedPositions trace.children).Pairwise (· < ·))
      (inside : ∀ position ∈ Trace.matchedPositions trace.children, position < elements.length)
      (decided : trace.result = quantifier.verdict trace.children) :
      Mirrors settings (array id path quantifier predicateId predicateLogic predicate) document
        trace

/-! ## Positions -/

namespace Quantifier

theorem map_snd_selected (quantifier : Quantifier) (elements : List Value) :
    (quantifier.selected elements).map (·.2) = quantifier.positions elements.length := by
  cases quantifier with
  | index position =>
      rw [selected, positions]
      by_cases inside : position < elements.length
      · simp [inside]
      · simp [inside]
  | _ => exact (List.zipIdx_map_snd 0 elements).trans List.range_eq_range'.symm

theorem getElem?_of_mem_selected {quantifier : Quantifier} {elements : List Value}
    {entry : Value × Nat} (member : entry ∈ quantifier.selected elements) :
    elements[entry.2]? = some entry.1 := by
  cases quantifier with
  | index position =>
      obtain ⟨element, found, rfl⟩ := List.mem_map.mp member
      exact Option.mem_toList.mp found
  | _ => exact List.mem_zipIdx_iff_getElem?.mp member

theorem pairwise_positions (quantifier : Quantifier) (total : Nat) :
    (quantifier.positions total).Pairwise (· < ·) := by
  cases quantifier with
  | index position =>
      rw [positions]
      split
      · exact List.pairwise_singleton _ _
      · exact .nil
  | _ => exact List.pairwise_lt_range

theorem lt_of_mem_positions {quantifier : Quantifier} {total position : Nat}
    (member : position ∈ quantifier.positions total) : position < total := by
  cases quantifier with
  | index own =>
      rw [positions] at member
      split at member
      · cases List.mem_singleton.mp member
        assumption
      · cases member
  | _ => exact List.mem_range.mp member

end Quantifier

namespace Trace

/-- The matching positions are some of those that the traces are tagged with, in their order. -/
theorem sublist_matchedPositions {positions : List Nat} {elements : List Trace}
    (tagged : elements.map (·.index) = positions.map some) :
    (matchedPositions elements).Sublist positions := by
  have tags : elements.filterMap (·.index) = positions := by
    have kept : (elements.map (·.index)).filterMap id = elements.filterMap (·.index) :=
      List.filterMap_map
    rw [tagged, List.filterMap_map] at kept
    simpa using kept.symm
  rw [← tags]
  exact List.filter_sublist.filterMap _

theorem length_matchedPositions {positions : List Nat} {elements : List Trace}
    (tagged : elements.map (·.index) = positions.map some) :
    (matchedPositions elements).length = elements.countP (·.result) := by
  induction elements generalizing positions with
  | nil => rfl
  | cons element elements ih =>
      obtain ⟨position, positions, rfl, here, later⟩ := List.map_eq_cons_iff.mp tagged.symm
      have rest := ih later.symm
      unfold matchedPositions at rest ⊢
      rw [List.filter_cons, List.countP_cons]
      cases element.result with
      | false => simpa using rest
      | true => simpa [← here] using rest

end Trace

/-! ## Verdicts -/

theorem Logic.holds_eq_verdict (logic : Logic) (children : List Trace) :
    logic.holds (children.map (·.result)) = logic.verdict children := by
  cases logic <;> simp [holds, verdict, Function.comp_def]

/-- The verdict over the number of matches is the one over the traces of the elements. -/
theorem Quantifier.holds_eq_verdict {quantifier : Quantifier} {total : Nat}
    {elements : List Trace} (count : elements.length = (quantifier.positions total).length) :
    quantifier.holds total (elements.countP (·.result)) = quantifier.verdict elements := by
  have some_holds : 0 < elements.countP (·.result) ↔ elements.any (·.result) = true := by
    rw [List.countP_pos_iff, List.any_eq_true]
  cases quantifier with
  | any => exact Bool.eq_iff_iff.mpr (decide_eq_true_iff.trans some_holds)
  | all =>
      have total_eq : elements.length = total := count.trans List.length_range
      rw [holds, verdict, ← total_eq, Bool.eq_iff_iff, beq_iff_eq, List.countP_eq_length,
        List.all_eq_true]
  | none =>
      rw [holds, verdict, Bool.eq_iff_iff, beq_iff_eq, Bool.not_eq_true', ← Bool.not_eq_true,
        ← some_holds]
      omega
  | index position =>
      have few : elements.countP (·.result) ≤ elements.length := List.countP_le_length
      rw [positions] at count
      rw [holds, verdict, Bool.eq_iff_iff, ← some_holds, Bool.and_eq_true, decide_eq_true_iff,
        beq_iff_eq]
      split at count
      · rw [List.length_singleton] at count
        omega
      · rw [List.length_nil] at count
        omega
  | countAtLeast count => rfl
  | countExactly count => rfl
  | countAtMost count => rfl

/-! ## Evaluation -/

namespace RuleNode

variable {settings : Settings}

theorem mirrors_group {id : String} {logic : Logic} {children : List RuleNode}
    (childMirrors : ∀ child ∈ children, ∀ document trace,
      child.evaluate settings document = .ok trace → Mirrors settings child document trace)
    {document : Value} {trace : Trace}
    (evaluated : (group id logic children).evaluate settings document = .ok trace)
    (index : Option Nat) :
    Mirrors settings (group id logic children) document { trace with index } := by
  rw [evaluate_group, Except.map_eq_ok] at evaluated
  obtain ⟨traces, evaluated, rfl⟩ := evaluated
  have each := evaluateAll_eq_ok.mp evaluated
  refine .group rfl each (fun child below member => ?_) (logic.holds_eq_verdict traces)
  exact childMirrors child (List.of_mem_zip member).1 document below
    ((List.forall₂_iff_zip.mp each).2 member)

/-- The traces of the selected elements are those of the positions that the quantifier asks
about. -/
theorem forall₂_showsElement {quantifier : Quantifier} {elements : List Value} {id : String}
    {logic : Logic} {predicate : List RuleNode} {traces : List Trace}
    (steps : List.Forall₂ (fun entry trace =>
        evaluateElement settings id logic predicate entry = .ok trace)
      (quantifier.selected elements) traces) :
    List.Forall₂ (ShowsElement settings (group id logic predicate) elements)
      (quantifier.positions elements.length) traces := by
  have placed := (List.forall₂_and_left _ _).mpr
    ⟨fun _ member => Quantifier.getElem?_of_mem_selected member, steps⟩
  rw [← quantifier.map_snd_selected, List.forall₂_map_left_iff]
  refine placed.imp fun entry below found => ?_
  obtain ⟨group, evaluated, rfl⟩ := evaluateElement_eq_ok.mp found.2
  exact ⟨entry.1, group, found.1, evaluated, rfl⟩

theorem map_index_of_showsElement {group : RuleNode} {elements : List Value}
    {positions : List Nat} {traces : List Trace}
    (each : List.Forall₂ (ShowsElement settings group elements) positions traces) :
    traces.map (·.index) = positions.map some := by
  induction each with
  | nil => rfl
  | cons here _ ih =>
      obtain ⟨_, _, -, -, rfl⟩ := here
      rw [List.map_cons, List.map_cons, ih]

/-- The trace of a rule mirrors it whenever the traces of elements are kept. -/
theorem mirrors_of_evaluate (keeps : settings.traceElements = true) {node : RuleNode}
    {document : Value} {trace : Trace} (evaluated : node.evaluate settings document = .ok trace) :
    Mirrors settings node document trace := by
  induction node generalizing document trace with
  | group id logic children ih =>
      cases trace
      exact mirrors_group (fun child member _ _ => ih child member) evaluated _
  | scalar id condition =>
      rw [evaluate, Condition.evaluate_eq_map, Except.map_eq_ok] at evaluated
      obtain ⟨shown, -, rfl⟩ := evaluated
      exact .scalar rfl rfl
  | array id path quantifier predicateId predicateLogic predicate ih =>
      rcases evaluate_array_eq_ok.mp evaluated with
        ⟨failing, reached, rfl⟩ | ⟨elements, traces, reached, steps, made⟩
      · exact .unreached (sequenceAt?_of_failing reached) rfl rfl rfl rfl
      · obtain ⟨failing, -, done⟩ := Except.bind_eq_ok.mp made
        rw [if_pos keeps] at done
        cases done
        have each := forall₂_showsElement steps
        have tagged := map_index_of_showsElement each
        have matching := Trace.sublist_matchedPositions tagged
        have matches_count := Trace.length_matchedPositions tagged
        refine .array (sequenceAt?_of_elements reached) rfl each ?_ rfl ?_ ?_ ?_
        · intro position element below at_position member
          obtain ⟨_, found, same, evaluated, rfl⟩ := (List.forall₂_iff_zip.mp each).2 member
          cases at_position.symm.trans same
          exact mirrors_group (fun child member _ _ => ih child member) evaluated _
        · exact (quantifier.pairwise_positions _).sublist matching
        · exact fun position member => Quantifier.lt_of_mem_positions (matching.subset member)
        · exact (congrArg _ matches_count).trans
            (Quantifier.holds_eq_verdict each.length_eq.symm)

theorem mirrors_skillRule :
    ∃ trace, skillRule.evaluate {} skillProfile = .ok trace ∧
      Mirrors {} skillRule skillProfile trace := by
  have finds : (skillRule.evaluate {} skillProfile).isOk = true := by decide +kernel
  cases evaluated : skillRule.evaluate {} skillProfile with
  | error fault => simp [evaluated, Except.isOk, Except.toBool] at finds
  | ok trace => exact ⟨trace, rfl, mirrors_of_evaluate rfl evaluated⟩

end RuleNode

end Rulebook
