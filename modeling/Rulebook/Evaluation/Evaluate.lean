import Rulebook.Condition.Apply
import Rulebook.Evaluation.Trace
import Rulebook.Path.Resolve
import Rulebook.Service.Settings

/-!
# Evaluating rules

A rule against a document.  All children of a group are evaluated, whatever the others give; an
empty group does not hold.  The elements of a sequence are evaluated as documents of their own.
-/

namespace Rulebook

/-- Why a node other than a condition fails. -/
inductive Failing where
  | emptyGroup
  | noneMatched
  | someFailed (failed total : Nat)
  | expandsArray
  | crossesArray
  | absent
  | notASequence (kind : Value.Kind)
  | noElement
  | elementsFailed (failed total : Nat)
  | elementsMatched (matched total : Nat)
  | miscounted (matched : Nat) (relation count : String)
  | outOfRange (index : String) (total : Nat)
  | elementFailed (index : Nat)
  deriving DecidableEq, Repr

/-- The text of a failure. -/
def Failing.message : Failing → String
  | emptyGroup => "empty group"
  | noneMatched => "no condition matched"
  | someFailed failed total => toString failed ++ " of " ++ toString total ++ " conditions failed"
  | expandsArray => "path expands an array; use an array rule"
  | crossesArray => "path crosses another array; nest array rules instead"
  | absent => "value is absent"
  | notASequence kind => "expected an array, found " ++ kind.name
  | noElement => "no element matched"
  | elementsFailed failed total =>
      toString failed ++ " of " ++ toString total ++ " elements did not match"
  | elementsMatched matched total =>
      toString matched ++ " of " ++ toString total ++ " elements matched"
  | miscounted matched relation count =>
      toString matched ++ " elements matched, expected " ++ relation ++ " " ++ count
  | outOfRange index total =>
      "index " ++ index ++ " is out of range for " ++ toString total ++ " elements"
  | elementFailed index => "element " ++ toString index ++ " did not match"

namespace Logic

/-- Whether a group holds whose children gave these results. -/
def holds (logic : Logic) (results : List Bool) : Bool :=
  match logic with
  | and => !results.isEmpty && results.all (·)
  | or => results.any (·)

/-- Why a group fails whose children gave these results. -/
def failing (logic : Logic) (results : List Bool) : Failing :=
  if results.isEmpty then .emptyGroup
  else match logic with
    | or => .noneMatched
    | and => .someFailed (results.count false) results.length

end Logic

namespace Quantifier

/-- Whether the quantifier holds for so many matches among the elements of a sequence. -/
def holds (quantifier : Quantifier) (total matched : Nat) : Bool :=
  match quantifier with
  | any => 0 < matched
  | all => matched == total
  | none => matched == 0
  | countAtLeast count => count ≤ matched
  | countExactly count => matched == count
  | countAtMost count => matched ≤ count
  | index position => position < total && matched == 1

/-- The number of a quantifier as text, which has to exist. -/
def numberText (number : Nat) : Except Fault String :=
  (Value.int number).literal

/-- Why the quantifier fails.  The text is made whether it is needed or not. -/
def failing (quantifier : Quantifier) (total matched : Nat) : Except Fault Failing :=
  match quantifier with
  | any => .ok .noElement
  | all => .ok (.elementsFailed (total - matched) total)
  | none => .ok (.elementsMatched matched total)
  | countAtLeast count => (numberText count).map (.miscounted matched "at least")
  | countExactly count => (numberText count).map (.miscounted matched "exactly")
  | countAtMost count => (numberText count).map (.miscounted matched "at most")
  | index position =>
      if position < total then .ok (.elementFailed position)
      else (numberText position).map (.outOfRange · total)

/-- The elements that the quantifier asks about, with their positions. -/
def selected (quantifier : Quantifier) (elements : List Value) : List (Value × Nat) :=
  match quantifier with
  | index position => (elements[position]?).toList.map fun element => (element, position)
  | _ => elements.zipIdx

end Quantifier

namespace Trace

/-- The message of a node that may have failed. -/
def messageUnless (result : Bool) (failing : Failing) : Option String :=
  if result then none else some failing.message

/-- The trace of a group over the traces of its children. -/
def ofGroup (id : String) (logic : Logic) (children : List Trace) : Trace :=
  let results := children.map (·.result)
  let result := logic.holds results
  { kind := groupKind, nodeId := id, result, logic := some logic.name, children
    message := messageUnless result (logic.failing results) }

/-- The trace of a condition. -/
def ofOutcome (id : String) (path : Value) (result : Bool) (message : Option String) : Trace :=
  { kind := scalarKind, nodeId := id, result, path, message }

/-- The trace of an array rule that does not get to its elements. -/
def ofArrayFailure (id : String) (path : Value) (quantifier : Quantifier) (failing : Failing) :
    Trace :=
  { kind := arrayKind, nodeId := id, result := false, path, quantifier := some quantifier.name
    matchedIndices := some [], message := some failing.message }

/-- The positions of the elements that satisfied the predicate. -/
def matchedPositions (elements : List Trace) : List Nat :=
  (elements.filter (·.result)).filterMap (·.index)

/-- The trace of an array rule over the traces of its elements, of which `total` are there. -/
def ofElements (keep : Bool) (id : String) (path : Value) (quantifier : Quantifier) (total : Nat)
    (elements : List Trace) : Except Fault Trace := do
  let positions := matchedPositions elements
  let result := quantifier.holds total positions.length
  let failing ← quantifier.failing total positions.length
  return {
    kind := arrayKind, nodeId := id, result, path, quantifier := some quantifier.name
    matchedIndices := some positions
    children := if keep then elements else []
    message := messageUnless result failing }

end Trace

namespace Condition

/-- The operands of a condition. -/
def operands (condition : Condition) (delimiter : String) : Operands :=
  { value := condition.value, value2 := condition.value2, delimiter := some delimiter }

/-- Evaluates a condition. -/
def evaluate (condition : Condition) (settings : Settings) (id : String) (document : Value) :
    Except Fault Trace := do
  let path ← Path.ofValue condition.path
  if !path.isConcrete then
    return .ofOutcome id condition.path false (some Failing.expandsArray.message)
  else
    let candidate ← path.resolve false document
    let outcome ← condition.operator.applyTo condition.type
      (condition.operands settings.listDelimiter) candidate
    return .ofOutcome id condition.path outcome.matched outcome.message?

end Condition

/-- The elements that an array rule is about, or why it has none. -/
def arrayElements (path document : Value) : Except Fault (Except Failing (List Value)) := do
  let path ← Path.ofValue path
  if path.dropLast.any Segment.isMarked then return .error .crossesArray
  else
    let value ← path.resolve false document
    match value with
    | .list items | .tuple items => return .ok items
    | .absent => return .error .absent
    | value => return .error (.notASequence value.kind)

namespace RuleNode

mutual

/-- Evaluates a rule against a document. -/
def evaluate (settings : Settings) : RuleNode → (document : Value) → Except Fault Trace
  | group id logic children, document => do
      let children ← evaluateAll settings children document
      return .ofGroup id logic children
  | scalar id condition, document => condition.evaluate settings id document
  | array id path quantifier predicateId predicateLogic predicate, document => do
      match ← arrayElements path document with
      | .error failing => return .ofArrayFailure id path quantifier failing
      | .ok elements =>
          let traces ← (quantifier.selected elements).mapM fun (element, position) => do
            let children ← evaluateAll settings predicate element
            return { Trace.ofGroup predicateId predicateLogic children with index := some position }
          Trace.ofElements settings.traceElements id path quantifier elements.length traces

/-- Evaluates several rules against the same document. -/
def evaluateAll (settings : Settings) : List RuleNode → (document : Value) →
    Except Fault (List Trace)
  | [], _ => return []
  | node :: rest, document => do
      let trace ← evaluate settings node document
      let traces ← evaluateAll settings rest document
      return trace :: traces

end

end RuleNode

end Rulebook
