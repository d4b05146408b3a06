import Rulebook.Proofs.Evaluation.Canonical
import Rulebook.Proofs.Rule.Loaded
import Rulebook.Proofs.Service.Requests

/-!
# Canonical policies

The canonical form that answers an evaluation is itself a policy.  For policies of JSON values it is
answered in the same way as the policy it comes from, down to the identities in the trace, and it is
its own canonical form.
-/

namespace Rulebook

namespace RuleNode

/-- Loading a canonical form and writing it again gives it back. -/
theorem portable_of_reload {maxDepth : Int} {data : Value} {session between : Session}
    {node : RuleNode} (loaded : (ofPortable maxDepth data).run session = (.ok node, between))
    (fresh : Session) :
    ∃ again last, (ofPortable maxDepth node.portable).run fresh = (.ok again, last) ∧
      again.portable = node.portable := by
  refine ⟨_, _, ofPortable_portable loaded fresh, ?_⟩
  rw [portable_renumber, portable_canonical]

end RuleNode

namespace Service

theorem policy_portable {settings : Settings} {rules : Value} {node : RuleNode}
    (made : policy settings rules = .ok node) :
    policy settings node.portable = .ok node.canonical := by
  obtain ⟨last, loaded, group⟩ := policy_eq_ok.mp made
  refine policy_eq_ok.mpr ⟨last, RuleNode.run_ofPortable_portable loaded, ?_⟩
  rw [RuleNode.isGroup_canonical, group]

theorem hasPortableOperands_of_policy {settings : Settings} {rules : Value} {node : RuleNode}
    (json : rules.isJson = true) (made : policy settings rules = .ok node) :
    node.HasPortableOperands := by
  obtain ⟨last, loaded, -⟩ := policy_eq_ok.mp made
  exact (RuleNode.isLoaded_of_load loaded).operands json

/-- The canonical form of an answered policy of JSON values is answered likewise, in any request,
and what loading and writing has made stays what it is when it is loaded and written again. -/
theorem evaluate_canonicalRules (settings : Settings) (rules payload : Value)
    (json : rules.isJson = true) (requestId : String) (roleId : Option String)
    (journal later : Journal) (answer : EvaluateAnswer)
    (answered : (evaluate settings rules payload requestId roleId).run journal =
      (.ok answer, later)) :
    (∀ requestId roleId journal, ∃ later,
        (evaluate settings answer.canonical payload requestId roleId).run journal =
          (.ok answer, later)) ∧
      ∀ (maxDepth : Int) (data : Value) (session between : Session) (node : RuleNode),
        (RuleNode.ofPortable maxDepth data).run session = (.ok node, between) → ∀ fresh,
          ∃ again last,
            (RuleNode.ofPortable maxDepth node.portable).run fresh = (.ok again, last) ∧
              again.portable = node.portable := by
  obtain ⟨node, loaded, evaluated, same⟩ := exists_run_evaluate_iff.mp ⟨later, answered⟩
  refine ⟨?_, fun _ _ _ _ _ => RuleNode.portable_of_reload⟩
  intro requestId roleId journal
  have operands := hasPortableOperands_of_policy json loaded
  refine exists_run_evaluate_iff.mpr ⟨node.canonical, ?_, ?_, ?_⟩
  · rw [same]
    exact policy_portable loaded
  · rw [RuleNode.evaluate_canonical ?_ payload, evaluated]
    intro id condition member
    obtain ⟨first, second⟩ := operands id condition member
    exact fun _ => condition.isKept_of_portable first second
  · rw [same, RuleNode.portable_canonical]

/-- A policy in the manner of older documents, with operands that no operator reads. -/
def olderPolicy : Value :=
  .mapping [("kind", .text "Group"), ("logic", .text "or"), ("rules", .list
    [.mapping [("kind", .text "scalar"), ("path", .text "level"), ("valuetype", .text "NUMBER"),
        ("op", .text "GTE"), ("value", .text "4"), ("value2", .int 7)],
      .mapping [("kind", .text "array"), ("path", .text "tags"), ("quantifier", .text "count_gte"),
        ("count", .text "2"), ("index", .null),
        ("predicate", .mapping [("kind", .text "group"), ("logic", .text "AND")])]])]

theorem evaluate_canonicalRules_olderPolicy :
    ∃ answer later,
      (evaluate {} olderPolicy (.mapping [("level", .int 5)]) "q1" none).run { threshold := 20 } =
          (.ok answer, later) ∧
        olderPolicy.isJson = true ∧ answer.trace.result = true ∧
          ∀ requestId roleId journal, ∃ later,
            (evaluate {} answer.canonical (.mapping [("level", .int 5)]) requestId roleId).run
              journal = (.ok answer, later) := by
  have json : olderPolicy.isJson = true := by decide
  have holds : (((evaluate {} olderPolicy (.mapping [("level", .int 5)]) "q1" none).run
      { threshold := 20 }).1.toOption.any fun answer => answer.trace.result) = true := by
    decide +kernel
  rcases answered : (evaluate {} olderPolicy (.mapping [("level", .int 5)]) "q1" none).run
      { threshold := 20 } with ⟨fault | answer, later⟩
  · rw [answered] at holds
    cases holds
  · rw [answered] at holds
    have again :=
      (evaluate_canonicalRules {} olderPolicy _ json "q1" none _ later answer answered).1
    exact ⟨answer, later, rfl, json, holds, again⟩

end Service

end Rulebook
