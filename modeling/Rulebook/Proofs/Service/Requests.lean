import Rulebook.Proofs.Rule.Reloading
import Rulebook.Proofs.Service.Recording
import Rulebook.Service.Service

/-!
# Accepted requests

An evaluation is answered when its policy is loaded and evaluated; the events that it leaves in the
journal hold texts and truth values only and are always recorded.
-/

namespace Rulebook

theorem run_logged_iff {α : Type} {result outcome : Except Fault α} {journal later : Journal} :
    (logged result).run journal = (outcome, later) ↔ result = outcome ∧ journal = later := by
  have run : (logged result).run journal = (result, journal) := by
    cases result with
    | error fault => rfl
    | ok value => rfl
  rw [run, Prod.mk.injEq]

namespace Service

/-- The journal under the identities of a request. -/
def entering (requestId : String) (roleId : Option String) (journal : Journal) : Journal :=
  (journal.setRequest requestId).setRole roleId

theorem run_during_iff {α : Type} {requestId : String} {roleId : Option String}
    {request : Logged α} {outcome : Except Fault α} {journal last : Journal} :
    (during requestId roleId request).run journal = (outcome, last) ↔
      ∃ between, request.run (entering requestId roleId journal) = (outcome, between) ∧
        between.clear = last := by
  change ((request.run (entering requestId roleId journal)).1,
    (request.run (entering requestId roleId journal)).2.clear) = _ ↔ _
  rcases request.run (entering requestId roleId journal) with ⟨found, between⟩
  constructor
  · intro done
    cases done
    exact ⟨between, rfl, rfl⟩
  · rintro ⟨_, done, rfl⟩
    cases done
    rfl

/-- Only a request that is carried out has a result; a rejection stays one when it is reported. -/
theorem run_reporting_eq_ok {α : Type} {settings : Settings} {request : Logged α} {value : α}
    {journal last : Journal} :
    (reporting settings request).run journal = (.ok value, last) ↔
      request.run journal = (.ok value, last) := by
  simp only [reporting, tryCatch, tryCatchThe, MonadExceptOf.tryCatch, ExceptT.tryCatch,
    ExceptT.run, ExceptT.mk, bind, StateT.bind]
  rcases request journal with ⟨fault | given, between⟩
  · constructor
    · intro done
      dsimp only at done
      split at done
      · obtain ⟨_, _, -, impossible⟩ := ExceptT.bind_eq_ok.mp done
        cases impossible
      · cases done
    · intro impossible
      cases impossible
  · rfl

/-- A policy is loaded like any rule, in a fresh session, and has a group as its root. -/
theorem policy_eq_ok {settings : Settings} {rules : Value} {node : RuleNode} :
    policy settings rules = .ok node ↔
      ∃ last, (RuleNode.ofPortable settings.maxRuleDepth rules).run
          (.fresh Session.defaultStem) = (.ok node, last) ∧ node.isGroup = true := by
  constructor
  · intro made
    have run : (loadPolicy settings rules).run (.fresh Session.defaultStem) =
        (.ok node, ((loadPolicy settings rules).run (.fresh Session.defaultStem)).2) :=
      Prod.ext made rfl
    obtain ⟨loaded, between, first, checked⟩ := ExceptT.bind_eq_ok.mp run
    split at checked
    · rename_i group
      cases congrArg Prod.fst checked
      exact ⟨between, first, group⟩
    · cases congrArg Prod.fst checked
  · rintro ⟨last, loaded, group⟩
    have run : (loadPolicy settings rules).run (.fresh Session.defaultStem) =
        (.ok node, last) := by
      refine ExceptT.bind_eq_ok.mpr ⟨node, last, loaded, ?_⟩
      rw [if_pos group]
      rfl
    exact congrArg Prod.fst run

theorem requestRules_of_policy {settings : Settings} {rules : Value} {node : RuleNode}
    (made : policy settings rules = .ok node) : requestRules rules = .ok rules := by
  obtain ⟨last, loaded, -⟩ := policy_eq_ok.mp made
  rw [RuleNode.ofPortable] at loaded
  cases limit : settings.maxRuleDepth.toNat with
  | zero =>
      rw [limit] at loaded
      cases loaded
  | succ depth =>
      rw [limit] at loaded
      obtain ⟨document, read, -⟩ := RuleNode.load_eq_ok.mp loaded
      cases rules with
      | mapping entries => rfl
      | _ => cases read

theorem eq_of_requestRules {rules accepted : Value}
    (given : requestRules rules = .ok accepted) : accepted = rules := by
  cases rules with
  | mapping entries =>
      cases given
      rfl
  | _ => cases given

theorem run_evaluateLogged_eq_ok {settings : Settings} {node : RuleNode} {payload : Value}
    {trace : Trace} {journal later : Journal}
    (done : (node.evaluateLogged settings payload).run journal = (.ok trace, later)) :
    node.evaluate settings payload = .ok trace := by
  obtain ⟨found, between, evaluated, rest⟩ := ExceptT.bind_eq_ok.mp done
  obtain ⟨_, last, -, finished⟩ := ExceptT.bind_eq_ok.mp rest
  cases finished
  exact (run_logged_iff.mp evaluated).1

theorem exists_run_evaluateLogged {settings : Settings} {node : RuleNode} {payload : Value}
    {trace : Trace} (evaluated : node.evaluate settings payload = .ok trace)
    (journal : Journal) :
    ∃ later, (node.evaluateLogged settings payload).run journal = (.ok trace, later) := by
  obtain ⟨later, recorded⟩ := Journal.exists_run_log
    { logger := engineLogger, level := .debug, event := "Rule evaluation result"
      fields := [("node_id", .text node.id), ("matched", .bool trace.result)] }
    (by simp [Journal.ownKeys]) rfl journal
  refine ⟨later, ExceptT.bind_eq_ok.mpr ⟨trace, journal, ?_, ?_⟩⟩
  · exact run_logged_iff.mpr ⟨evaluated, rfl⟩
  · exact ExceptT.bind_eq_ok.mpr ⟨(), later, recorded, rfl⟩

/-- An evaluation is answered exactly when the policy is loaded and evaluated on the document; the
answer does not depend on the journal or on the identities of the request. -/
theorem exists_run_evaluate_iff {settings : Settings} {rules payload : Value} {requestId : String}
    {roleId : Option String} {journal : Journal} {answer : EvaluateAnswer} :
    (∃ later, (evaluate settings rules payload requestId roleId).run journal =
        (.ok answer, later)) ↔
      ∃ node, policy settings rules = .ok node ∧
        node.evaluate settings payload = .ok answer.trace ∧
          answer.canonical = node.portable := by
  constructor
  · rintro ⟨later, done⟩
    obtain ⟨accepted, between, given, requested⟩ := ExceptT.bind_eq_ok.mp done
    obtain ⟨rfl⟩ := eq_of_requestRules (run_logged_iff.mp given).1
    obtain ⟨last, reported, -⟩ := run_during_iff.mp requested
    have answered := run_reporting_eq_ok.mp reported
    obtain ⟨node, between, loaded, rest⟩ := ExceptT.bind_eq_ok.mp answered
    obtain ⟨trace, between, evaluated, rest⟩ := ExceptT.bind_eq_ok.mp rest
    obtain ⟨_, between, -, finished⟩ := ExceptT.bind_eq_ok.mp rest
    cases finished
    exact ⟨node, (run_logged_iff.mp loaded).1, run_evaluateLogged_eq_ok evaluated, rfl⟩
  · rintro ⟨node, loaded, evaluated, same⟩
    obtain ⟨between, traced⟩ :=
      exists_run_evaluateLogged evaluated (entering requestId roleId journal)
    obtain ⟨last, recorded⟩ := Journal.exists_run_log
      { logger := loggerName settings, level := .info, event := "Role rules evaluated"
        fields := [("matched", .bool answer.trace.result)] }
      (by simp [Journal.ownKeys]) rfl between
    refine ⟨last.clear, ExceptT.bind_eq_ok.mpr ⟨rules, journal, ?_, ?_⟩⟩
    · exact run_logged_iff.mpr ⟨requestRules_of_policy loaded, rfl⟩
    · refine run_during_iff.mpr ⟨last, run_reporting_eq_ok.mpr ?_, rfl⟩
      refine ExceptT.bind_eq_ok.mpr ⟨node, _, run_logged_iff.mpr ⟨loaded, rfl⟩, ?_⟩
      refine ExceptT.bind_eq_ok.mpr ⟨answer.trace, between, traced, ?_⟩
      refine ExceptT.bind_eq_ok.mpr ⟨(), last, recorded, ?_⟩
      rw [← same]
      rfl

end Service

end Rulebook
