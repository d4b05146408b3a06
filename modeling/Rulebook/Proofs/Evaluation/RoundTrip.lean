import Rulebook.Proofs.Condition.Unfaithful
import Rulebook.Proofs.Evaluation.Anonymous
import Rulebook.Proofs.Path.Resolution
import Rulebook.Proofs.Rule.Reloading

/-!
# The round trip of a rule

The portable form of a rule is always accepted.  What is loaded gives the same traces apart from
identities, for the rule and for every rule in it, exactly when each condition that leads to a
single value is faithful.
-/

namespace Rulebook

/-- Operands that are told apart give different findings for some document. -/
theorem Condition.exists_finding_ne {condition : Condition} {settings : Settings}
    (concrete : condition.HasConcretePath)
    (apart : condition.operator.TellsApart condition.type
      (condition.operands settings.listDelimiter)
      (condition.canonical.operands settings.listDelimiter)) :
    ∃ document shown, condition.finding settings document = .ok shown ∧
      ∀ other, condition.canonical.finding settings document = .ok other → other ≠ shown := by
  obtain ⟨path, parsed, concrete⟩ := concrete
  obtain ⟨candidate, outcome, -, here, there⟩ := apart
  have reached := path.resolve_documentAt false candidate
  refine ⟨path.documentAt candidate, outcome.shown, ?_, ?_⟩
  · rw [finding_of_concrete parsed concrete reached, here]
    rfl
  · intro other found
    have canonicalParsed : Path.ofValue condition.canonical.path = .ok path := parsed
    rw [finding_of_concrete canonicalParsed concrete reached] at found
    obtain ⟨result, applied, rfl⟩ := Except.map_eq_ok.mp found
    exact there result applied

namespace RuleNode

/-! ## Reloaded rules -/

variable {settings : Settings} {maxDepth : Int} {node : RuleNode}

/-- Whether the portable form of a rule is accepted in every session and then gives, wherever the
rule gives a trace, the same trace apart from identities. -/
def RoundTrips (node : RuleNode) (settings : Settings) (maxDepth : Int) : Prop :=
  ∀ session, ∃ again last, (ofPortable maxDepth node.portable).run session = (.ok again, last) ∧
    ∀ document trace, node.evaluate settings document = .ok trace →
      ∃ copy, again.evaluate settings document = .ok copy ∧ copy.anonymous = trace.anonymous

/-- Round trips are about the canonical rule. -/
theorem roundTrips_iff_canonical (texts : node.HasTextPaths)
    (shallow : node.depth ≤ maxDepth.toNat) :
    node.RoundTrips settings maxDepth ↔
      ∀ document trace, evaluateAnonymous settings document node = .ok trace →
        evaluateAnonymous settings document node.canonical = .ok trace := by
  have reloaded : (ofPortable maxDepth node.portable).Yields node.canonical :=
    load_portable texts shallow "$"
  constructor
  · intro kept document trace evaluated
    obtain ⟨again, last, loaded, same⟩ := kept (.fresh Session.defaultStem)
    rw [reloaded, Prod.mk.injEq, Except.ok.injEq] at loaded
    obtain ⟨rfl, -⟩ := loaded
    obtain ⟨own, found, rfl⟩ := Except.map_eq_ok.mp evaluated
    obtain ⟨copy, copied, alike⟩ := same document own found
    rw [← evaluateAnonymous_renumber, evaluateAnonymous, copied, Except.map, alike]
  · intro kept session
    refine ⟨_, _, reloaded session, fun document trace evaluated => ?_⟩
    have anonymous : evaluateAnonymous settings document node = .ok trace.anonymous := by
      rw [evaluateAnonymous, evaluated]
      rfl
    have copied := kept document _ anonymous
    rw [← evaluateAnonymous_renumber node.canonical session] at copied
    exact Except.map_eq_ok.mp copied

/-- Faithful conditions make a rule survive the round trip. -/
theorem roundTrips_of_faithful (texts : node.HasTextPaths)
    (shallow : node.depth ≤ maxDepth.toNat)
    (faithful : ∀ id condition, scalar id condition ∈ node.nodes → condition.HasConcretePath →
      condition.isFaithful settings.listDelimiter = true) :
    node.RoundTrips settings maxDepth := by
  rw [roundTrips_iff_canonical texts shallow]
  intro document trace evaluated
  rw [evaluateAnonymous, evaluate_canonical, ← evaluateAnonymous, evaluated]
  intro id condition member concrete
  exact condition.isKept_of_isFaithful (faithful id condition member concrete)

/-- A condition that survives the round trip by itself is faithful. -/
theorem isFaithful_of_roundTrips {id : String} {condition : Condition}
    (texts : (scalar id condition).HasTextPaths)
    (shallow : (scalar id condition).depth ≤ maxDepth.toNat)
    (concrete : condition.HasConcretePath)
    (kept : (scalar id condition).RoundTrips settings maxDepth) :
    condition.isFaithful settings.listDelimiter = true := by
  by_contra unfaithful
  obtain ⟨document, shown, here, there⟩ := Condition.exists_finding_ne concrete
    (Condition.tellsApart_of_not_isFaithful settings.delimiterGiven
      (Bool.eq_false_iff.mpr unfaithful))
  rw [roundTrips_iff_canonical texts shallow] at kept
  have again := kept document (.ofOutcome "" condition.path shown.1 shown.2) (by
    rw [evaluateAnonymous_scalar, Condition.evaluate_eq_map, here]
    rfl)
  rw [canonical, evaluateAnonymous_scalar, Condition.evaluate_eq_map] at again
  obtain ⟨other, found, same⟩ := Except.map_eq_ok.mp again
  refine there other found (Prod.ext ?_ ?_)
  · exact congrArg Trace.result same
  · exact congrArg Trace.message same

/-- The portable form of a rule is accepted.  The rule and all rules in it survive the round trip
exactly when the conditions that lead to single values are faithful. -/
theorem roundTrips_iff_isFaithful (texts : node.HasTextPaths)
    (shallow : node.depth ≤ maxDepth.toNat) :
    (∀ session, ∃ again last,
      (ofPortable maxDepth node.portable).run session = (.ok again, last)) ∧
    ((∀ sub ∈ node.nodes, sub.RoundTrips settings maxDepth) ↔
      ∀ id condition, scalar id condition ∈ node.nodes → condition.HasConcretePath →
        condition.isFaithful settings.listDelimiter = true) := by
  refine ⟨fun session => ⟨_, _, load_portable texts shallow "$" session⟩, ?_, ?_⟩
  · intro kept id condition member concrete
    exact isFaithful_of_roundTrips (texts.of_mem member)
      (Nat.le_trans (depth_le_of_mem member) shallow) concrete (kept _ member)
  · intro faithful sub inside
    refine roundTrips_of_faithful (texts.of_mem inside)
      (Nat.le_trans (depth_le_of_mem inside) shallow) ?_
    intro id condition member concrete
    exact faithful id condition (mem_nodes_trans member inside) concrete

/-- The start of a year. -/
def newYear : Date := ⟨2024, 1, 1, by decide⟩

/-- Somebody hired since the new year, or one of whose reviews was written on that day. -/
def hiringRule : RuleNode :=
  .group "r1" .or
    [.scalar "r2"
      { path := .text "hired", type := .date, operator := .after, value := .date newYear
        value2 := .null, legal := rfl },
    .array "r3" (.text "reviews[]") .any "r4" .and
      [.scalar "r5"
        { path := .text "written", type := .string, operator := .isIn
          value := .tuple [.date newYear], value2 := .null, legal := rfl }]]

theorem hasTextPaths_hiringRule : hiringRule.HasTextPaths := by
  intro node member path given
  simp only [hiringRule, nodes, nodesOf, List.mem_cons, List.append_nil, List.cons_append,
    List.nil_append, List.not_mem_nil, or_false] at member
  rcases member with rfl | rfl | rfl | rfl | rfl <;> cases given <;> exact ⟨_, rfl⟩

theorem roundTrips_hiringRule :
    hiringRule.HasTextPaths ∧ ∀ sub ∈ hiringRule.nodes, sub.RoundTrips {} 32 := by
  refine ⟨hasTextPaths_hiringRule,
    (roundTrips_iff_isFaithful hasTextPaths_hiringRule (by decide)).2.mpr ?_⟩
  intro id condition member concrete
  simp only [hiringRule, nodes, nodesOf, List.mem_cons, List.append_nil, List.cons_append,
    List.nil_append, List.not_mem_nil, or_false] at member
  rcases member with found | found | found | found | found <;> cases found <;> rfl

/-- A pattern that is a date by mistake. -/
def datePattern : Condition where
  path := .text "hired"
  type := .string
  operator := .regex
  value := .date newYear
  value2 := .null
  legal := rfl

/-- Not every rule survives the round trip: a date becomes a pattern. -/
theorem not_forall_roundTrips :
    ¬ ∀ (node : RuleNode) (settings : Settings) (maxDepth : Int), node.HasTextPaths →
      node.depth ≤ maxDepth.toNat → node.RoundTrips settings maxDepth := by
  intro law
  have texts : (scalar "x" datePattern).HasTextPaths := by
    intro node member path given
    cases List.mem_singleton.mp member
    cases given
    exact ⟨_, rfl⟩
  have faithful := isFaithful_of_roundTrips texts (by decide) ⟨Path.parse "hired", rfl, rfl⟩
    (law (scalar "x" datePattern) {} 32 texts (by decide))
  cases faithful

end RuleNode

end Rulebook
