import Rulebook.Evaluation.Evaluate
import Rulebook.Proofs.Results
import Rulebook.Proofs.Rule.Induction

/-!
# The steps of an evaluation

What evaluating a rule comes to at each kind of node: the traces that the rules directly below
have to give, and the trace that is made of them.
-/

namespace Rulebook

/-- What a trace shows of an outcome. -/
def Outcome.shown (outcome : Outcome) : Bool × Option String :=
  (outcome.matched, outcome.message?)

namespace Condition

/-- What a condition shows of a document: whether it holds, and a message. -/
def finding (condition : Condition) (settings : Settings) (document : Value) :
    Except Fault (Bool × Option String) := do
  let path ← Path.ofValue condition.path
  if !path.isConcrete then
    return (false, some Failing.expandsArray.message)
  else
    let candidate ← path.resolve false document
    let outcome ← condition.operator.applyTo condition.type
      (condition.operands settings.listDelimiter) candidate
    return outcome.shown

theorem finding_of_concrete {condition : Condition} {settings : Settings} {document : Value}
    {path : Path} {candidate : Value} (parsed : Path.ofValue condition.path = .ok path)
    (concrete : path.isConcrete = true) (reached : path.resolve false document = .ok candidate) :
    condition.finding settings document =
      (condition.operator.applyTo condition.type (condition.operands settings.listDelimiter)
        candidate).map Outcome.shown := by
  rw [finding, parsed]
  change (if !path.isConcrete then _ else path.resolve false _ >>= _) = _
  rw [concrete, if_neg (by decide), reached]
  rfl

theorem evaluate_eq_map (condition : Condition) (settings : Settings) (id : String)
    (document : Value) :
    condition.evaluate settings id document =
      (condition.finding settings document).map fun shown =>
        .ofOutcome id condition.path shown.1 shown.2 := by
  rw [evaluate, finding]
  cases Path.ofValue condition.path with
  | error fault => rfl
  | ok path =>
      change (if !path.isConcrete then _ else _) = Except.map _ (if !path.isConcrete then _ else _)
      cases path.isConcrete with
      | false => rfl
      | true =>
          cases path.resolve false document with
          | error fault => rfl
          | ok candidate =>
              change (condition.operator.applyTo _ _ candidate >>= _) =
                Except.map _ (condition.operator.applyTo _ _ candidate >>= _)
              cases condition.operator.applyTo condition.type
                (condition.operands settings.listDelimiter) candidate <;> rfl

end Condition

namespace RuleNode

theorem evaluate_group (settings : Settings) (id : String) (logic : Logic)
    (children : List RuleNode) (document : Value) :
    evaluate settings (group id logic children) document =
      (evaluateAll settings children document).map (Trace.ofGroup id logic) := by
  rw [evaluate]
  rfl

theorem evaluateAll_eq_mapM (settings : Settings) (children : List RuleNode)
    (document : Value) :
    evaluateAll settings children document =
      children.mapM fun child => evaluate settings child document := by
  induction children with
  | nil => rfl
  | cons child rest ih => rw [evaluateAll, ih, List.mapM_cons]

/-- The traces of the children of a group are theirs, one by one and in order. -/
theorem evaluateAll_eq_ok {settings : Settings} {children : List RuleNode} {document : Value}
    {traces : List Trace} :
    evaluateAll settings children document = .ok traces ↔
      List.Forall₂ (fun child trace => evaluate settings child document = .ok trace)
        children traces := by
  rw [evaluateAll_eq_mapM, Except.mapM_eq_ok]

/-- Evaluates the predicate of an array rule on one element, given with its position. -/
def evaluateElement (settings : Settings) (id : String) (logic : Logic)
    (predicate : List RuleNode) (entry : Value × Nat) : Except Fault Trace :=
  (evaluateAll settings predicate entry.1).map fun children =>
    { Trace.ofGroup id logic children with index := some entry.2 }

theorem evaluate_array (settings : Settings) (id : String) (path : Value)
    (quantifier : Quantifier) (predicateId : String) (predicateLogic : Logic)
    (predicate : List RuleNode) (document : Value) :
    evaluate settings (array id path quantifier predicateId predicateLogic predicate) document =
      (arrayElements path document >>= fun found =>
        match found with
        | .error failing => .ok (.ofArrayFailure id path quantifier failing)
        | .ok elements =>
            (quantifier.selected elements).mapM
                (evaluateElement settings predicateId predicateLogic predicate) >>=
              Trace.ofElements settings.traceElements id path quantifier elements.length) := by
  rw [evaluate]
  rfl

/-- An array rule either does not get to its elements, or it evaluates its predicate on those
that its quantifier selects. -/
theorem evaluate_array_eq_ok {settings : Settings} {id : String} {path : Value}
    {quantifier : Quantifier} {predicateId : String} {predicateLogic : Logic}
    {predicate : List RuleNode} {document : Value} {trace : Trace} :
    evaluate settings (array id path quantifier predicateId predicateLogic predicate) document =
        .ok trace ↔
      (∃ failing, arrayElements path document = .ok (.error failing) ∧
        trace = .ofArrayFailure id path quantifier failing) ∨
      ∃ elements traces, arrayElements path document = .ok (.ok elements) ∧
        List.Forall₂ (fun entry trace =>
            evaluateElement settings predicateId predicateLogic predicate entry = .ok trace)
          (quantifier.selected elements) traces ∧
        Trace.ofElements settings.traceElements id path quantifier elements.length traces =
          .ok trace := by
  rw [evaluate_array, Except.bind_eq_ok]
  constructor
  · rintro ⟨found, reached, rest⟩
    cases found with
    | error failing => exact .inl ⟨failing, reached, (Except.ok.inj rest).symm⟩
    | ok elements =>
        obtain ⟨traces, evaluated, made⟩ := Except.bind_eq_ok.mp rest
        exact .inr ⟨elements, traces, reached, Except.mapM_eq_ok.mp evaluated, made⟩
  · rintro (⟨failing, reached, rfl⟩ | ⟨elements, traces, reached, evaluated, made⟩)
    · exact ⟨.error failing, reached, rfl⟩
    · exact ⟨.ok elements, reached,
        Except.bind_eq_ok.mpr ⟨traces, Except.mapM_eq_ok.mpr evaluated, made⟩⟩

end RuleNode

end Rulebook
