import Rulebook.Evaluation.Evaluate
import Rulebook.Service.Journal

/-!
# Recorded evaluations

The evaluation of a rule on one document or on several, with the events they leave in the journal.
-/

namespace Rulebook

/-- The logger of evaluations. -/
def engineLogger : String := "roles.rule_engine"

/-- The keys of documents that satisfied a rule and of those that did not, in the order of the
documents. -/
structure Partition where
  matched : List String
  unmatched : List String
  deriving DecidableEq, Repr

namespace RuleNode

/-- Evaluates a rule on a document. -/
def evaluateLogged (node : RuleNode) (settings : Settings) (document : Value) : Logged Trace := do
  let trace ← logged (node.evaluate settings document)
  log { logger := engineLogger, level := .debug, event := "Rule evaluation result"
        fields := [("node_id", .text node.id), ("matched", .bool trace.result)] }
  return trace

/-- Splits documents by whether they satisfy a rule. -/
def partition (node : RuleNode) (settings : Settings) :
    List (String × Value) → Except Fault Partition
  | [] => .ok { matched := [], unmatched := [] }
  | (key, document) :: rest => do
      let trace ← node.evaluate settings document
      let { matched, unmatched } ← partition node settings rest
      return if trace.result then { matched := key :: matched, unmatched }
        else { matched, unmatched := key :: unmatched }

/-- Splits documents by whether they satisfy a rule. -/
def partitionLogged (node : RuleNode) (settings : Settings) (documents : List (String × Value)) :
    Logged Partition := do
  let result ← logged (node.partition settings documents)
  log { logger := engineLogger, level := .info, event := "Batch evaluation completed"
        fields := [("node_id", .text node.id), ("total", .int documents.length),
          ("matched", .int result.matched.length)] }
  return result

end RuleNode

end Rulebook
