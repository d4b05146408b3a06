import Rulebook.Proofs.Evaluation.Steps
import Rulebook.Proofs.Rule.Canonical

/-!
# Traces without identities

The identities of a rule are copied into its trace and decide nothing: a rule with other identities
gives the same trace apart from them, or fails in the same way.
-/

namespace Rulebook

theorem Except.map_bind_eq {ε α β γ δ : Type} {first : Except ε α} {next : α → Except ε β}
    {change : α → γ} {after : β → δ} {rest : γ → Except ε δ}
    (commutes : ∀ value, (next value).map after = rest (change value)) :
    (first >>= next).map after = first.map change >>= rest := by
  cases first with
  | error problem => rfl
  | ok value => exact commutes value

theorem Except.mapM_map {ε α β γ : Type} (step : α → Except ε β) (change : β → γ)
    (items : List α) :
    (items.mapM step).map (List.map change) = items.mapM fun item => (step item).map change := by
  induction items with
  | nil => rfl
  | cons item items ih =>
      rw [List.mapM_cons, List.mapM_cons, ← ih]
      cases step item with
      | error problem => rfl
      | ok result =>
          change Except.map _ (items.mapM step >>= _) = ((items.mapM step).map _ >>= _)
          cases items.mapM step <;> rfl

namespace Trace

/-- The matching positions depend on the verdicts and positions of the elements alone. -/
theorem matchedPositions_map {change : Trace → Trace}
    (result : ∀ trace, (change trace).result = trace.result)
    (index : ∀ trace, (change trace).index = trace.index) (elements : List Trace) :
    matchedPositions (elements.map change) = matchedPositions elements := by
  simp only [matchedPositions, List.filter_map, List.filterMap_map]
  congr 1
  · exact funext index
  · exact congrArg (List.filter · elements) (funext result)

mutual

/-- The trace with its identities blanked out. -/
def anonymous : Trace → Trace
  | { kind, nodeId := _, result, message, path, logic, quantifier, matchedIndices, index,
      children } =>
    { kind, nodeId := "", result, message, path, logic, quantifier, matchedIndices, index
      children := anonymousAll children }

/-- Several traces with their identities blanked out. -/
def anonymousAll : List Trace → List Trace
  | [] => []
  | trace :: rest => anonymous trace :: anonymousAll rest

end

theorem anonymousAll_eq_map (traces : List Trace) : anonymousAll traces = traces.map anonymous := by
  induction traces with
  | nil => rfl
  | cons trace rest ih => rw [anonymousAll, ih, List.map_cons]

theorem anonymous_eq (trace : Trace) :
    trace.anonymous =
      { trace with nodeId := "", children := trace.children.map anonymous } := by
  obtain ⟨kind, id, result, message, path, logic, quantifier, matched, index, children⟩ := trace
  rw [anonymous, anonymousAll_eq_map]

@[simp]
theorem result_anonymous (trace : Trace) : trace.anonymous.result = trace.result := by
  rw [anonymous_eq]

@[simp]
theorem index_anonymous (trace : Trace) : trace.anonymous.index = trace.index := by
  rw [anonymous_eq]

theorem anonymous_withIndex (trace : Trace) (index : Option Nat) :
    ({ trace with index } : Trace).anonymous = { trace.anonymous with index } := by
  rw [anonymous_eq, anonymous_eq]

theorem anonymous_ofGroup (id : String) (logic : Logic) (children : List Trace) :
    (ofGroup id logic children).anonymous = ofGroup "" logic (children.map anonymous) := by
  have results : (children.map anonymous).map (·.result) = children.map (·.result) := by
    simp
  rw [anonymous_eq, ofGroup, ofGroup, results]

theorem ofElements_anonymous (keep : Bool) (id : String) (path : Value) (quantifier : Quantifier)
    (total : Nat) (elements : List Trace) :
    (ofElements keep id path quantifier total elements).map anonymous =
      ofElements keep "" path quantifier total (elements.map anonymous) := by
  unfold ofElements
  rw [matchedPositions_map result_anonymous index_anonymous]
  dsimp only
  generalize quantifier.failing total (matchedPositions elements).length = reason
  cases reason with
  | error fault => rfl
  | ok failing =>
      refine congrArg Except.ok ((anonymous_eq _).trans ?_)
      cases keep <;> rfl

end Trace

namespace RuleNode

variable {settings : Settings}

/-- What evaluating a rule gives apart from identities. -/
def evaluateAnonymous (settings : Settings) (document : Value) (node : RuleNode) :
    Except Fault Trace :=
  (node.evaluate settings document).map Trace.anonymous

theorem evaluateAll_anonymous (children : List RuleNode) (document : Value) :
    (evaluateAll settings children document).map (List.map Trace.anonymous) =
      children.mapM (evaluateAnonymous settings document) := by
  rw [evaluateAll_eq_mapM, Except.mapM_map]
  rfl

theorem evaluateAnonymous_group (id : String) (logic : Logic) (children : List RuleNode)
    (document : Value) :
    evaluateAnonymous settings document (group id logic children) =
      (children.mapM (evaluateAnonymous settings document)).map
        (Trace.ofGroup "" logic) := by
  rw [evaluateAnonymous, evaluate_group, ← evaluateAll_anonymous]
  cases evaluateAll settings children document with
  | error fault => rfl
  | ok traces => exact congrArg Except.ok (Trace.anonymous_ofGroup id logic traces)

theorem evaluateAnonymous_scalar (id : String) (condition : Condition) (document : Value) :
    evaluateAnonymous settings document (scalar id condition) =
      condition.evaluate settings "" document := by
  rw [evaluateAnonymous, evaluate, Condition.evaluate_eq_map, Condition.evaluate_eq_map]
  cases condition.finding settings document with
  | error fault => rfl
  | ok shown => exact congrArg Except.ok (Trace.anonymous_eq _)

/-- What a predicate gives on one element, apart from identities. -/
def elementAnonymous (settings : Settings) (logic : Logic) (predicate : List RuleNode)
    (entry : Value × Nat) : Except Fault Trace :=
  (predicate.mapM (evaluateAnonymous settings entry.1)).map fun children =>
    { Trace.ofGroup "" logic children with index := some entry.2 }

theorem evaluateElement_anonymous (id : String) (logic : Logic) (predicate : List RuleNode)
    (entry : Value × Nat) :
    (evaluateElement settings id logic predicate entry).map Trace.anonymous =
      elementAnonymous settings logic predicate entry := by
  rw [evaluateElement, elementAnonymous, ← evaluateAll_anonymous]
  cases evaluateAll settings predicate entry.1 with
  | error fault => rfl
  | ok traces =>
      refine congrArg Except.ok ((Trace.anonymous_withIndex _ _).trans ?_)
      rw [Trace.anonymous_ofGroup]

theorem evaluateAnonymous_array (id : String) (path : Value) (quantifier : Quantifier)
    (predicateId : String) (predicateLogic : Logic) (predicate : List RuleNode)
    (document : Value) :
    evaluateAnonymous settings document
        (array id path quantifier predicateId predicateLogic predicate) =
      (arrayElements path document >>= fun found =>
        match found with
        | .error failing => .ok (.ofArrayFailure "" path quantifier failing)
        | .ok elements =>
            (quantifier.selected elements).mapM
                (elementAnonymous settings predicateLogic predicate) >>=
              Trace.ofElements settings.traceElements "" path quantifier elements.length) := by
  rw [evaluateAnonymous, evaluate_array]
  cases arrayElements path document with
  | error fault => rfl
  | ok found =>
      cases found with
      | error failing => exact congrArg Except.ok (Trace.anonymous_eq _)
      | ok elements =>
          refine (Except.map_bind_eq fun traces => Trace.ofElements_anonymous _ _ _ _ _ _).trans ?_
          rw [Except.mapM_map]
          simp only [evaluateElement_anonymous]
          rfl

theorem mapM_renumberAll {α : Type} {result : RuleNode → Except Fault α}
    {children : List RuleNode}
    (same : ∀ child ∈ children, ∀ session, result (child.renumber session).1 = result child)
    (session : Session) :
    (renumberAll children session).1.mapM result = children.mapM result := by
  induction children generalizing session with
  | nil => rfl
  | cons child rest ih =>
      have later := ih fun node member => same node (List.mem_cons_of_mem _ member)
      rw [renumberAll, List.mapM_cons, List.mapM_cons, same child List.mem_cons_self, later]

/-- Identities do not count. -/
theorem evaluateAnonymous_renumber (node : RuleNode) (session : Session) (document : Value) :
    evaluateAnonymous settings document (node.renumber session).1 =
      evaluateAnonymous settings document node := by
  induction node generalizing session document with
  | group id logic children ih =>
      rw [renumber, evaluateAnonymous_group, evaluateAnonymous_group,
        mapM_renumberAll fun child member => (ih child member · document)]
  | scalar id condition =>
      rw [renumber, evaluateAnonymous_scalar, evaluateAnonymous_scalar]
  | array id path quantifier predicateId predicateLogic predicate ih =>
      have elements (later : Session) :
          elementAnonymous settings predicateLogic (renumberAll predicate later).1 =
            elementAnonymous settings predicateLogic predicate := by
        funext entry
        rw [elementAnonymous, elementAnonymous,
          mapM_renumberAll fun child member => (ih child member · entry.1)]
      rw [renumber, evaluateAnonymous_array, evaluateAnonymous_array, elements]

end RuleNode

end Rulebook
