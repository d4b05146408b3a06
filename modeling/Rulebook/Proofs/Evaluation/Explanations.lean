import Rulebook.Proofs.Evaluation.Views

/-!
# Explanations of failures

Every node of the trace of a rule that failed has a message, and no node that held has one.  The
view of messages by path therefore has exactly the paths where no node held, and shows for each of
them what the first node there says.
-/

namespace Rulebook

/-! ## Texts of reasons -/

theorem CoercionIssue.message_ne_empty (issue : CoercionIssue) : issue.message ≠ "" := by
  unfold message
  split <;> simp

theorem Reason.message_ne_empty (reason : Reason) : reason.message ≠ "" := by
  cases reason with
  | unreadable issue => exact issue.message_ne_empty
  | _ =>
      unfold message
      simp

theorem Failing.message_ne_empty (failing : Failing) : failing.message ≠ "" := by
  unfold message
  split <;> simp

namespace Trace

/-- Whether a node has a message exactly when it failed. -/
def IsExplained (trace : Trace) : Prop :=
  (trace.result = true → trace.message = none) ∧
    (trace.result = false → ∃ message, trace.message = some message ∧ message ≠ "")

theorem isExplained_of_failing {trace : Trace} (failing : Failing)
    (shown : trace.message = messageUnless trace.result failing) : trace.IsExplained := by
  constructor
  · intro held
    rw [shown, held]
    rfl
  · intro failed
    refine ⟨failing.message, ?_, failing.message_ne_empty⟩
    rw [shown, failed]
    rfl

theorem isExplained_of_outcome {trace : Trace} {outcome : Outcome}
    (result : trace.result = outcome.matched) (message : trace.message = outcome.message?) :
    trace.IsExplained := by
  cases outcome with
  | holds =>
      constructor
      · exact fun _ => message
      · intro failed
        rw [result] at failed
        cases failed
  | fails reason =>
      constructor
      · intro held
        rw [result] at held
        cases held
      · exact fun _ => ⟨reason.message, message, reason.message_ne_empty⟩

theorem isExplained_of_condition {condition : Condition} {settings : Settings} {id : String}
    {document : Value} {trace : Trace}
    (evaluated : condition.evaluate settings id document = .ok trace) : trace.IsExplained := by
  obtain ⟨path, -, rest⟩ := Except.bind_eq_ok.mp evaluated
  split at rest
  · cases rest
    exact isExplained_of_failing .expandsArray rfl
  · obtain ⟨candidate, -, rest⟩ := Except.bind_eq_ok.mp rest
    obtain ⟨outcome, -, made⟩ := Except.bind_eq_ok.mp rest
    cases made
    exact isExplained_of_outcome rfl rfl

/-- Every node of the trace of a rule has a message exactly when it failed. -/
theorem isExplained_of_evaluate {settings : Settings} {root : RuleNode} {document : Value}
    {trace : Trace} (evaluated : root.evaluate settings document = .ok trace) :
    ∀ node ∈ trace.nodes, node.IsExplained := by
  refine RuleNode.forall_mem_nodes_of_evaluate ?_ ?_ ?_ ?_ evaluated
  · intro id logic children index
    exact isExplained_of_failing (logic.failing (children.map (·.result))) rfl
  · intro id condition document trace _ evaluated
    exact isExplained_of_condition evaluated
  · intro id path quantifier predicateId predicateLogic predicate failing _
    exact isExplained_of_failing failing rfl
  · intro id path quantifier predicateId predicateLogic predicate total elements trace _ made
    obtain ⟨failing, -, done⟩ := Except.bind_eq_ok.mp made
    cases done
    exact isExplained_of_failing failing rfl

/-- The failure that is noted of a node which failed with an explanation is its message. -/
theorem failure?_eq_message {trace : Trace} (explained : trace.IsExplained)
    (failed : trace.result = false) : trace.failure? = trace.message := by
  obtain ⟨message, shown, given⟩ := explained.2 failed
  rw [failure?, failed, shown]
  simp [given]

theorem isPlaced_of_evaluate {settings : Settings} {root : RuleNode} (texts : root.HasTextPaths)
    {document : Value} {trace : Trace} (evaluated : root.evaluate settings document = .ok trace) :
    ∀ node ∈ trace.nodes, node.IsPlaced := by
  refine RuleNode.forall_mem_nodes_of_evaluate ?_ ?_ ?_ ?_ evaluated
  · intro id logic children index
    exact .inl rfl
  · intro id condition document trace inside evaluated
    rw [Condition.evaluate_eq_map, Except.map_eq_ok] at evaluated
    obtain ⟨shown, -, rfl⟩ := evaluated
    exact .inr ⟨.inl ⟨rfl, rfl⟩, texts _ inside condition.path rfl⟩
  · intro id path quantifier predicateId predicateLogic predicate failing inside
    exact .inr ⟨.inr rfl, texts _ inside path rfl⟩
  · intro id path quantifier predicateId predicateLogic predicate total elements trace inside made
    obtain ⟨failing, -, done⟩ := Except.bind_eq_ok.mp made
    cases done
    exact .inr ⟨.inr rfl, texts _ inside path rfl⟩

/-- A path without a node that held has the message of its first node. -/
theorem exists_first_of_status {nodes : List Located} (texts : HaveTextPaths nodes)
    (explained : ∀ node ∈ nodes, node.trace.IsExplained) {path : Value}
    (status : lookupPath (nodes.foldl noteResult []) path = some false) :
    ∃ first message, nodes.find? (fun node => path.same node.path) = some first ∧
      first.trace.message = some message ∧ lookupPath (failures nodes) path = some message := by
  rw [lookupPath_status texts] at status
  cases here : nodesAt path nodes with
  | nil =>
      rw [here] at status
      cases status
  | cons first rest =>
      rw [here, if_neg (List.cons_ne_nil _ _), Option.some_inj] at status
      have failed : first.trace.result = false := by
        rw [List.any_cons, Bool.or_eq_false_iff] at status
        exact status.1
      have member : first ∈ nodesAt path nodes := here ▸ List.mem_cons_self
      have own : first.trace.IsExplained := explained first (List.mem_filter.mp member).1
      obtain ⟨message, shown, -⟩ := own.2 failed
      refine ⟨first, message, ?_, shown, ?_⟩
      · rw [← List.head?_filter]
        exact congrArg List.head? here
      · rw [lookupPath_failures texts, here, status, if_neg (by decide), List.findSome?_cons,
          failure?_eq_message own failed, shown]

/-- A path that has a message has nodes, none of which held. -/
theorem status_of_lookupPath_failures {nodes : List Located} (texts : HaveTextPaths nodes)
    {path : Value} {message : String} (given : lookupPath (failures nodes) path = some message) :
    lookupPath (nodes.foldl noteResult []) path = some false := by
  rw [lookupPath_failures texts] at given
  rw [lookupPath_status texts]
  cases held : (nodesAt path nodes).any (·.trace.result) with
  | true =>
      rw [held] at given
      cases given
  | false =>
      cases here : nodesAt path nodes with
      | nil =>
          rw [here] at given
          cases given
      | cons first rest => rw [if_neg (List.cons_ne_nil _ _)]

end Trace

namespace RuleNode

open Trace

/-- Every failure is explained and no success is.  The view of messages shows exactly the paths
where no node held, and at each of them the message of the first condition or array rule there. -/
theorem isExplained_and_messagesByPath {settings : Settings} {root : RuleNode}
    (texts : root.HasTextPaths) {document : Value} {trace : Trace}
    (evaluated : root.evaluate settings document = .ok trace) :
    (∀ node ∈ trace.nodes, node.IsExplained) ∧
      ∃ nodes status messages, trace.located = .ok nodes ∧
        nodes.map (·.trace) = trace.nodes.filter (·.kind != groupKind) ∧
        trace.statusByPath = .ok status ∧ trace.messagesByPath = .ok messages ∧
        (∀ path, (lookupPath messages path).isSome = true ↔
          lookupPath status path = some false) ∧
        ∀ path message, lookupPath messages path = some message →
          ∃ first, nodes.find? (fun node => path.same node.path) = some first ∧
            first.trace.message = some message := by
  have explained := isExplained_of_evaluate evaluated
  obtain ⟨nodes, found, walked⟩ := exists_walk (isPlaced_of_evaluate texts evaluated) ""
  have inside : ∀ node ∈ nodes, node.trace.IsExplained := by
    intro node member
    have among : node.trace ∈ nodes.map (·.trace) := List.mem_map_of_mem member
    rw [walked.traces_eq] at among
    exact explained node.trace (List.mem_filter.mp among).1
  refine ⟨explained, nodes, _, _, found, walked.traces_eq,
    statusByPath_eq_ok found walked.texts, messagesByPath_eq_ok found walked.texts, ?_, ?_⟩
  · intro path
    constructor
    · intro given
      obtain ⟨message, given⟩ := Option.isSome_iff_exists.mp given
      exact status_of_lookupPath_failures walked.texts given
    · intro status
      obtain ⟨first, message, -, -, given⟩ := exists_first_of_status walked.texts inside status
      rw [given]
      rfl
  · intro path message given
    have status := status_of_lookupPath_failures walked.texts given
    obtain ⟨first, other, at_path, shown, also_given⟩ :=
      exists_first_of_status walked.texts inside status
    cases given.symm.trans also_given
    exact ⟨first, at_path, shown⟩

/-- Every member speaks French or has a badge above 3; the group without children never holds. -/
def teamRule : RuleNode :=
  .group "r1" .and
    [.array "r2" (.text "members") .all "r3" .or
      [.scalar "r4"
        { path := .text "language", type := .string, operator := .startsWith, value := .text "fr"
          value2 := .null, legal := rfl },
        .scalar "r5"
        { path := .text "badge", type := .number, operator := .gt, value := .int 3
          value2 := .null, legal := rfl }],
      .group "r6" .or []]

/-- Two members who speak no French, the second of whom has no badge either. -/
def teamProfile : Value :=
  .mapping
    [("members", .list
      [.mapping [("language", .text "de"), ("badge", .int 7)],
        .mapping [("language", .text "en")]])]

/-- The message at a path of the trace of the team rule. -/
def teamMessage? (settings : Settings) (path : String) : Option String :=
  match teamRule.evaluate settings teamProfile >>= messagesByPath with
  | .ok messages => lookupPath messages (.text path)
  | .error _ => none

theorem isExplained_teamRule :
    teamRule.HasTextPaths ∧ ∃ trace messages, teamRule.evaluate {} teamProfile = .ok trace ∧
      (∀ node ∈ trace.nodes, node.IsExplained) ∧ trace.messagesByPath = .ok messages ∧
        lookupPath messages (.text "members[].language") = some "'de' is not starting with 'fr'" ∧
        lookupPath messages (.text "members[].badge") = none := by
  have texts : teamRule.HasTextPaths := by
    intro node member path given
    simp only [teamRule, nodes, nodesOf, List.mem_cons, List.append_nil, List.cons_append,
      List.nil_append, List.not_mem_nil, or_false] at member
    rcases member with rfl | rfl | rfl | rfl | rfl | rfl <;> cases given <;> exact ⟨_, rfl⟩
  have finds : (teamRule.evaluate {} teamProfile).isOk = true := by decide +kernel
  have language : teamMessage? {} "members[].language" =
      some "'de' is not starting with 'fr'" := by decide +kernel
  have badge : teamMessage? {} "members[].badge" = none := by decide +kernel
  cases evaluated : teamRule.evaluate {} teamProfile with
  | error fault => simp [evaluated, Except.isOk, Except.toBool] at finds
  | ok trace =>
      obtain ⟨explained, nodes, status, messages, -, -, -, shown, -⟩ :=
        isExplained_and_messagesByPath texts evaluated
      have found : teamRule.evaluate {} teamProfile >>= messagesByPath = .ok messages :=
        Except.bind_eq_ok.mpr ⟨trace, evaluated, shown⟩
      rw [teamMessage?, found] at language badge
      exact ⟨texts, trace, messages, rfl, explained, shown, language, badge⟩

end RuleNode

end Rulebook
