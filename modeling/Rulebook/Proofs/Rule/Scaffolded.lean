import Rulebook.Proofs.Path.Written
import Rulebook.Proofs.Results
import Rulebook.Proofs.Rule.Canonical
import Rulebook.Rule.Scaffold

/-!
# Scaffolded rules

How a rule is built for a location of a sample, step by step.  The rule is numbered by the session
that it is built in, and its operands are those of its portable form.
-/

namespace Rulebook

/-- Whether a value is a mapping, a sequence or missing. -/
def Value.isBare : Value → Bool
  | absent | list _ | tuple _ | mapping _ => true
  | _ => false

namespace RuleNode

theorem isPlainElement_eq_not (element : Value) : isPlainElement element = !element.isBare := by
  cases element <;> rfl

/-- How the rule for the rest of a path is built below the unmarked steps `front`, from the sample
that these are taken from. -/
inductive Builds : (front rest : Path) → (sample : Value) → (session : Session) → RuleNode →
    (last : Session) → Prop where
  | condition {front : Path} {sample value : Value} {session : Session}
      (found : (Path.parse front.format).resolve true sample = .ok value) :
      Builds front [] sample session
        (.scalar session.next (.ofSample (.text front.format) value)) session.advance
  | unmarked {front rest : Path} {segment : Segment} {sample : Value} {session last : Session}
      {rule : RuleNode} (unmarked : segment.isMarked = false)
      (further : Builds (front ++ [segment]) rest sample session rule last) :
      Builds front (segment :: rest) sample session rule last
  | within {front rest : Path} {segment : Segment} {sample elements : Value}
      {session last : Session} {child : RuleNode} (isMarked : segment.isMarked = true)
      (found : (Path.parse (Path.format (front ++ [segment.unmarked]))).resolve true sample =
        .ok elements)
      (inside : rest = [] → (representative elements).isBare = false)
      (further : Builds [] rest (representative elements) session.advance.advance child last) :
      Builds front (segment :: rest) sample session
        (.array session.next (.text (Path.format (front ++ [segment.unmarked]))) .any
          session.advance.next .and [child]) last
  | bare {front : Path} {segment : Segment} {sample elements : Value} {session : Session}
      (isMarked : segment.isMarked = true)
      (found : (Path.parse (Path.format (front ++ [segment.unmarked]))).resolve true sample =
        .ok elements)
      (bare : (representative elements).isBare = true) :
      Builds front [segment] sample session
        (.array session.next (.text (Path.format (front ++ [segment.unmarked]))) .any
          session.advance.next .and []) session.advance.advance

section Builds

variable {front rest : Path} {sample : Value} {session last : Session} {rule : RuleNode}

theorem builds_of_marked {segment : Segment} (isMarked : segment.isMarked = true)
    (inside : ∀ element between child after,
      (scaffoldFrom [] rest element).run between = (.ok child, after) →
        Builds [] rest element between child after)
    (built : (scaffoldFrom front (segment :: rest) sample).run session = (.ok rule, last)) :
    Builds front (segment :: rest) sample session rule last := by
  rw [scaffoldFrom, if_pos isMarked] at built
  obtain ⟨elements, reached, built⟩ := ExceptT.bind_liftM_eq_ok.mp built
  obtain ⟨id, between, drawn, built⟩ := ExceptT.bind_eq_ok.mp built
  cases drawn
  obtain ⟨predicateId, between, drawn, built⟩ := ExceptT.bind_eq_ok.mp built
  cases drawn
  cases rest with
  | cons next rest =>
      rw [if_pos (by simp)] at built
      obtain ⟨child, between, below, made⟩ := ExceptT.bind_eq_ok.mp built
      cases made
      have further (nothing : next :: rest = []) : (representative elements).isBare = false := by
        cases nothing
      exact .within isMarked reached further (inside _ _ _ _ below)
  | nil =>
      rw [if_neg (by simp), isPlainElement_eq_not] at built
      cases isBare : (representative elements).isBare with
      | true =>
          rw [isBare] at built
          cases built
          exact .bare isMarked reached isBare
      | false =>
          -- The condition on the element is the rule for no further step.
          have top : (Path.parse (Path.format [])).resolve true (representative elements) =
              .ok (representative elements) := by
            rw [Path.parse_format (List.forall_mem_nil _), Path.resolve]
          rw [isBare] at built
          cases built
          exact .within isMarked reached (fun _ => isBare) (.condition top)

theorem builds_of_scaffoldFrom
    (built : (scaffoldFrom front rest sample).run session = (.ok rule, last)) :
    Builds front rest sample session rule last := by
  induction rest generalizing front sample session rule last with
  | nil =>
      rw [scaffoldFrom] at built
      obtain ⟨value, reached, built⟩ := ExceptT.bind_liftM_eq_ok.mp built
      cases built
      exact .condition reached
  | cons segment rest ih =>
      cases isMarked : segment.isMarked with
      | true => exact builds_of_marked isMarked (fun _ _ _ _ => ih) built
      | false =>
          rw [scaffoldFrom, if_neg (by simp [isMarked])] at built
          exact .unmarked isMarked (ih built)

/-- The operands that are taken from a sample are their own portable form. -/
theorem canonical_ofSample (path value : Value) :
    (Condition.ofSample path value).canonical = .ofSample path value := by
  have operands : value.seed.canonicalIf value.suggestedType.defaultOperator.readsValue =
      value.seed := by
    cases value with
    | text text =>
        cases dated : Value.startsWithDate text.toList <;>
          simp only [Value.seed, Value.suggestedType, dated] <;> rfl
    | _ => rfl
  have second : Value.null.canonicalIf
      value.suggestedType.defaultOperator.readsSecondValue = .null := ite_self _
  rw [Condition.canonical, Condition.ofSample]
  simp only [operands, second]

theorem canonical_of_builds (builds : Builds front rest sample session rule last) :
    rule.canonical = rule := by
  induction builds with
  | condition found => rw [canonical, canonical_ofSample]
  | unmarked unmarked further ih => exact ih
  | within isMarked found inside further ih => rw [canonical, canonicalAll, canonicalAll, ih]
  | bare isMarked found isBare => rfl

theorem renumber_of_builds (builds : Builds front rest sample session rule last) :
    rule.renumber session = (rule, last) := by
  induction builds with
  | condition found => rfl
  | unmarked unmarked further ih => exact ih
  | within isMarked found inside further ih => simp only [renumber, renumberAll, ih]
  | bare isMarked found isBare => rfl

end Builds

end RuleNode

end Rulebook
