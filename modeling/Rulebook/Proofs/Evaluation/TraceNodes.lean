import Rulebook.Proofs.Evaluation.Satisfaction

/-!
# The nodes of traces

A trace is walked from the top down, the traces of elements included.  Whatever holds of the traces
that groups, conditions and array rules give holds of every node of the trace of a rule.
-/

namespace Rulebook

namespace Trace

mutual

/-- The nodes of a trace in pre-order, itself included. -/
def nodes : Trace → List Trace
  | { kind, nodeId, result, message, path, logic, quantifier, matchedIndices, index, children } =>
      { kind, nodeId, result, message, path, logic, quantifier, matchedIndices, index, children } ::
        nodesOf children

/-- The nodes of several traces, one trace after the other. -/
def nodesOf : List Trace → List Trace
  | [] => []
  | trace :: rest => nodes trace ++ nodesOf rest

end

/-- Induction on traces, with the hypothesis for every trace directly below. -/
@[elab_as_elim, induction_eliminator]
theorem induction {motive : Trace → Prop}
    (node : ∀ kind nodeId result message path logic quantifier matchedIndices index children,
      (∀ child ∈ children, motive child) →
        motive { kind, nodeId, result, message, path, logic, quantifier, matchedIndices, index,
                 children })
    (trace : Trace) : motive trace := by
  refine Trace.rec (motive_2 := fun traces => ∀ child ∈ traces, motive child) node ?_ ?_ trace
  · exact List.forall_mem_nil _
  · exact fun _ _ first rest => List.forall_mem_cons.mpr ⟨first, rest⟩

theorem nodesOf_eq_flatMap (traces : List Trace) : nodesOf traces = traces.flatMap nodes := by
  induction traces with
  | nil => rfl
  | cons trace rest ih => rw [nodesOf, ih, List.flatMap_cons]

theorem nodes_eq_cons (trace : Trace) : trace.nodes = trace :: trace.children.flatMap nodes := by
  cases trace
  rw [nodes, nodesOf_eq_flatMap]

theorem forall_mem_nodes {holds : Trace → Prop} {trace : Trace} :
    (∀ node ∈ trace.nodes, holds node) ↔
      holds trace ∧ ∀ child ∈ trace.children, ∀ node ∈ child.nodes, holds node := by
  rw [nodes_eq_cons, List.forall_mem_cons, List.forall_mem_flatMap]

end Trace

namespace RuleNode

section Nodes

variable {settings : Settings} {holds : Trace → Prop}
  (ofGroup : ∀ id logic children index, holds { Trace.ofGroup id logic children with index })

include ofGroup

/-- The trace of a group, of an element or not, has what the traces of its children have. -/
theorem forall_mem_nodes_group {id : String} {logic : Logic} {children : List RuleNode}
    {document : Value} {trace : Trace}
    (below : ∀ child ∈ children, ∀ trace, child.evaluate settings document = .ok trace →
      ∀ node ∈ trace.nodes, holds node)
    (evaluated : (group id logic children).evaluate settings document = .ok trace)
    (index : Option Nat) : ∀ node ∈ ({ trace with index } : Trace).nodes, holds node := by
  rw [evaluate_group, Except.map_eq_ok] at evaluated
  obtain ⟨traces, evaluated, rfl⟩ := evaluated
  refine Trace.forall_mem_nodes.mpr ⟨ofGroup id logic traces index, fun child member => ?_⟩
  obtain ⟨node, among, found⟩ := exists_related_of_mem (evaluateAll_eq_ok.mp evaluated) member
  exact below node among child found

/-- What holds of the traces of groups and of the nodes of a rule that have a path holds of every
node of its trace. -/
theorem forall_mem_nodes_of_evaluate {root : RuleNode}
    (ofCondition : ∀ id condition document trace, scalar id condition ∈ root.nodes →
      condition.evaluate settings id document = .ok trace → holds trace)
    (ofFailure : ∀ id path quantifier predicateId predicateLogic predicate failing,
      array id path quantifier predicateId predicateLogic predicate ∈ root.nodes →
        holds (.ofArrayFailure id path quantifier failing))
    (ofElements : ∀ id path quantifier predicateId predicateLogic predicate total elements trace,
      array id path quantifier predicateId predicateLogic predicate ∈ root.nodes →
        Trace.ofElements settings.traceElements id path quantifier total elements = .ok trace →
          holds trace)
    {document : Value} {trace : Trace} (evaluated : root.evaluate settings document = .ok trace) :
    ∀ node ∈ trace.nodes, holds node := by
  suffices below : ∀ sub ∈ root.nodes, ∀ document trace,
      sub.evaluate settings document = .ok trace → ∀ node ∈ trace.nodes, holds node from
    below root (self_mem_nodes root) document trace evaluated
  intro sub inside document trace evaluated
  induction sub generalizing document trace with
  | group id logic children ih =>
      cases trace
      refine forall_mem_nodes_group ofGroup (fun child member => ?_) evaluated _
      exact ih child member (mem_nodes_trans (mem_nodes_of_mem_children member) inside) document
  | scalar id condition =>
      have made := evaluated
      rw [evaluate, Condition.evaluate_eq_map, Except.map_eq_ok] at made
      obtain ⟨shown, -, rfl⟩ := made
      exact Trace.forall_mem_nodes.mpr
        ⟨ofCondition id condition document _ inside evaluated, List.forall_mem_nil _⟩
  | array id path quantifier predicateId predicateLogic predicate ih =>
      rcases evaluate_array_eq_ok.mp evaluated with
        ⟨failing, -, rfl⟩ | ⟨elements, traces, -, steps, made⟩
      · exact Trace.forall_mem_nodes.mpr
          ⟨ofFailure _ _ _ _ _ _ failing inside, List.forall_mem_nil _⟩
      · refine Trace.forall_mem_nodes.mpr ⟨ofElements _ _ _ _ _ _ _ _ _ inside made, ?_⟩
        obtain ⟨failing, -, done⟩ := Except.bind_eq_ok.mp made
        cases done
        intro child kept
        dsimp only at kept
        have member : child ∈ traces := by
          split at kept
          · exact kept
          · cases kept
        obtain ⟨entry, -, step⟩ := exists_related_of_mem steps member
        obtain ⟨found, evaluated, rfl⟩ := evaluateElement_eq_ok.mp step
        refine forall_mem_nodes_group ofGroup (fun child member => ?_) evaluated _
        exact ih child member (mem_nodes_trans (mem_nodes_of_mem_predicate member) inside) entry.1

end Nodes

end RuleNode

end Rulebook
