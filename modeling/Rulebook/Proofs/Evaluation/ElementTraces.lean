import Rulebook.Proofs.Evaluation.Anonymous

/-!
# Traces without elements

The verdict of an array rule and its message come from the positions that matched, never from the
traces of elements that are kept.  An evaluation that does not keep them gives the trace of one that
does with those traces left out, or fails in the same way.
-/

namespace Rulebook

theorem Except.mapM_congr {ε α β : Type} {first second : α → Except ε β} {items : List α}
    (each : ∀ item ∈ items, first item = second item) : items.mapM first = items.mapM second := by
  induction items with
  | nil => rfl
  | cons item items ih =>
      obtain ⟨here, later⟩ := List.forall_mem_cons.mp each
      rw [List.mapM_cons, List.mapM_cons, here, ih later]

/-- The same settings with traces of elements kept or not. -/
def Settings.keepingElements (settings : Settings) (keep : Bool) : Settings :=
  { settings with traceElements := keep }

namespace Trace

mutual

/-- The trace in which no array rule has traces of elements. -/
def withoutElements : Trace → Trace
  | { kind, nodeId, result, message, path, logic, quantifier, matchedIndices, index, children } =>
    { kind, nodeId, result, message, path, logic, quantifier, matchedIndices, index
      children := if kind = arrayKind then [] else withoutElementsAll children }

/-- Several traces in which no array rule has traces of elements. -/
def withoutElementsAll : List Trace → List Trace
  | [] => []
  | trace :: rest => withoutElements trace :: withoutElementsAll rest

end

theorem withoutElementsAll_eq_map (traces : List Trace) :
    withoutElementsAll traces = traces.map withoutElements := by
  induction traces with
  | nil => rfl
  | cons trace rest ih => rw [withoutElementsAll, ih, List.map_cons]

theorem withoutElements_eq (trace : Trace) :
    trace.withoutElements =
      { trace with
        children :=
          if trace.kind = arrayKind then [] else trace.children.map withoutElements } := by
  obtain ⟨kind, id, result, message, path, logic, quantifier, matched, index, children⟩ := trace
  rw [withoutElements, withoutElementsAll_eq_map]

@[simp]
theorem result_withoutElements (trace : Trace) : trace.withoutElements.result = trace.result := by
  rw [withoutElements_eq]

@[simp]
theorem index_withoutElements (trace : Trace) : trace.withoutElements.index = trace.index := by
  rw [withoutElements_eq]

theorem withoutElements_withIndex (trace : Trace) (index : Option Nat) :
    ({ trace with index } : Trace).withoutElements = { trace.withoutElements with index } := by
  rw [withoutElements_eq, withoutElements_eq]

theorem withoutElements_ofGroup (id : String) (logic : Logic) (children : List Trace) :
    (ofGroup id logic children).withoutElements =
      ofGroup id logic (children.map withoutElements) := by
  have results : (children.map withoutElements).map (·.result) = children.map (·.result) := by
    simp
  have other : groupKind ≠ arrayKind := by decide
  rw [withoutElements_eq, ofGroup, ofGroup, results, if_neg other]

theorem withoutElements_of_leaf {trace : Trace} (leaf : trace.children = []) :
    trace.withoutElements = trace := by
  cases trace
  cases leaf
  rw [withoutElements_eq, List.map_nil, ite_self]

/-- The trace of an array rule shows the same but for the traces of elements. -/
theorem ofElements_withoutElements (id : String) (path : Value) (quantifier : Quantifier)
    (total : Nat) (elements : List Trace) :
    (ofElements true id path quantifier total elements).map withoutElements =
      ofElements false id path quantifier total (elements.map withoutElements) := by
  unfold ofElements
  rw [matchedPositions_map result_withoutElements index_withoutElements]
  dsimp only
  cases quantifier.failing total (matchedPositions elements).length with
  | error fault => rfl
  | ok failing => exact congrArg Except.ok (withoutElements_eq _)

end Trace

namespace RuleNode

variable {settings : Settings}

theorem evaluate_scalar_withoutElements (id : String) (condition : Condition) (document : Value) :
    evaluate (settings.keepingElements false) (scalar id condition) document =
      (evaluate (settings.keepingElements true) (scalar id condition) document).map
        Trace.withoutElements := by
  rw [evaluate, evaluate, Condition.evaluate_eq_map, Condition.evaluate_eq_map]
  change Except.map _ (condition.finding (settings.keepingElements true) document) = _
  cases condition.finding (settings.keepingElements true) document with
  | error fault => rfl
  | ok shown => exact congrArg Except.ok (Trace.withoutElements_of_leaf rfl).symm

theorem evaluateAll_withoutElements {children : List RuleNode} {document : Value}
    (each : ∀ child ∈ children,
      evaluate (settings.keepingElements false) child document =
        (evaluate (settings.keepingElements true) child document).map Trace.withoutElements) :
    evaluateAll (settings.keepingElements false) children document =
      (evaluateAll (settings.keepingElements true) children document).map
        (List.map Trace.withoutElements) := by
  rw [evaluateAll_eq_mapM, evaluateAll_eq_mapM, Except.mapM_map]
  exact Except.mapM_congr each

theorem evaluateElement_withoutElements {id : String} {logic : Logic}
    {predicate : List RuleNode} {entry : Value × Nat}
    (each : ∀ child ∈ predicate,
      evaluate (settings.keepingElements false) child entry.1 =
        (evaluate (settings.keepingElements true) child entry.1).map Trace.withoutElements) :
    evaluateElement (settings.keepingElements false) id logic predicate entry =
      (evaluateElement (settings.keepingElements true) id logic predicate entry).map
        Trace.withoutElements := by
  rw [evaluateElement, evaluateElement, evaluateAll_withoutElements each]
  cases evaluateAll (settings.keepingElements true) predicate entry.1 with
  | error fault => rfl
  | ok traces =>
      refine congrArg Except.ok ?_
      rw [Trace.withoutElements_withIndex, Trace.withoutElements_ofGroup]

theorem evaluate_keepingElements_false (settings : Settings) (node : RuleNode)
    (document : Value) :
    node.evaluate (settings.keepingElements false) document =
      (node.evaluate (settings.keepingElements true) document).map Trace.withoutElements := by
  induction node generalizing document with
  | group id logic children ih =>
      rw [evaluate_group, evaluate_group,
        evaluateAll_withoutElements fun child member => ih child member document]
      cases evaluateAll (settings.keepingElements true) children document with
      | error fault => rfl
      | ok traces => exact congrArg Except.ok (Trace.withoutElements_ofGroup ..).symm
  | scalar id condition => exact evaluate_scalar_withoutElements id condition document
  | array id path quantifier predicateId predicateLogic predicate ih =>
      rw [evaluate_array, evaluate_array]
      cases arrayElements path document with
      | error fault => rfl
      | ok found =>
          cases found with
          | error failing => exact congrArg Except.ok (Trace.withoutElements_of_leaf rfl).symm
          | ok elements =>
              -- The predicate is evaluated on every element in both cases; only what is kept of it
              -- in the trace of the array rule differs.
              refine Eq.trans ?_ (Except.map_bind_eq fun traces =>
                Trace.ofElements_withoutElements _ _ _ _ _).symm
              rw [Except.mapM_map]
              simp only [← evaluateElement_withoutElements fun child member => ih child member _]
              rfl

/-- Not keeping the traces of elements changes nothing but these: the trace is the one that keeps
them without them, and the verdict stays. -/
theorem evaluate_withoutElements (settings : Settings) (node : RuleNode) (document : Value) :
    node.evaluate (settings.keepingElements false) document =
        (node.evaluate (settings.keepingElements true) document).map Trace.withoutElements ∧
      (node.evaluate (settings.keepingElements false) document).map (·.result) =
        (node.evaluate (settings.keepingElements true) document).map (·.result) := by
  have traces := evaluate_keepingElements_false settings node document
  refine ⟨traces, ?_⟩
  rw [traces]
  cases node.evaluate (settings.keepingElements true) document with
  | error fault => rfl
  | ok trace => exact congrArg Except.ok trace.result_withoutElements

end RuleNode

end Rulebook
