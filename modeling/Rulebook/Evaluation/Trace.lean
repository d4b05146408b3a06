import Rulebook.Document.Equality
import Rulebook.Rule.Node
import Rulebook.Path.Basic

/-!
# Traces

A trace follows the shape of a rule and says at each node whether it held and, if not, why.
-/

namespace Rulebook

/-- What an evaluation found at one node of a rule.  Nodes of a kind leave out what the kind does
not have. -/
structure Trace where
  kind : String
  nodeId : String
  result : Bool
  message : Option String := none
  /-- The path of the node, null when it has none. -/
  path : Value := .null
  logic : Option String := none
  quantifier : Option String := none
  matchedIndices : Option (List Nat) := none
  /-- The position of the element that the node was evaluated for. -/
  index : Option Nat := none
  children : List Trace := []
  deriving Repr

namespace Trace

/-- An entry that is left out when it has no value. -/
def optionalEntry (name : String) (value : Option Value) : List (String × Value) :=
  value.toList.map fun value => (name, value)

/-- A position as a value. -/
def position (index : Nat) : Value := .int index

/-- The entries of a trace document before the children. -/
def ownEntries (trace : Trace) : List (String × Value) :=
  [("kind", .text trace.kind), ("nodeId", .text trace.nodeId), ("result", .bool trace.result)] ++
  (if trace.path.isNull then [] else [("path", trace.path)]) ++
  optionalEntry "logic" (trace.logic.map .text) ++
  optionalEntry "quantifier" (trace.quantifier.map .text) ++
  optionalEntry "index" (trace.index.map position) ++
  optionalEntry "matchedIndices"
    (trace.matchedIndices.map fun indices => .list (indices.map position)) ++
  match trace.message with
  | some message => if trace.result || message.isEmpty then [] else [("message", .text message)]
  | none => []

mutual

/-- The trace document. -/
def toValue : Trace → Value
  | { kind, nodeId, result, message, path, logic, quantifier, matchedIndices, index, children } =>
      let own := ownEntries
        { kind, nodeId, result, message, path, logic, quantifier, matchedIndices, index }
      .mapping (own ++ match toValues children with
        | [] => []
        | children => [("children", .list children)])

/-- The trace documents of several nodes. -/
def toValues : List Trace → List Value
  | [] => []
  | trace :: rest => toValue trace :: toValues rest

end

end Trace

end Rulebook
