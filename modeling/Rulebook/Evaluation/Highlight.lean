import Rulebook.Evaluation.Trace

/-!
# Highlighting

Which paths of a document a rule reads, and what a trace says about each of them.  Paths are counted
from the top of the document: below an array rule they start with its path and the marker.
-/

namespace Rulebook

/-- A path below a base; either may be empty. -/
def joinPath (base : String) (path : Value) : Except Fault Value :=
  if base.isEmpty then .ok (if path.isTruthy then path else .text "")
  else if path.isTruthy then do return .text (base ++ "." ++ (← path.plain))
  else .ok (.text base)

/-- The path of an array rule below a base, without marks. -/
def joinArrayPath (base : String) (path : Value) : Except Fault String := do
  let stripped := (← Path.ofValue path).stripped.format
  return if base.isEmpty then stripped
    else if stripped.isEmpty then base
    else base ++ "." ++ stripped

/-- The base of the paths inside the elements of a sequence. -/
def elementBase (path : String) : String := path ++ arrayMarkerText

/-- Adds a path that is not there yet. -/
def addPath (paths : List Value) (path : Value) : List Value :=
  if paths.any path.same then paths else paths ++ [path]

namespace RuleNode

mutual

/-- The paths that a rule reads below a base, in the order of the rule, added to those of
before. -/
def usedPathsFrom (base : String) (used : List Value) : RuleNode → Except Fault (List Value)
  | group _ _ children => usedPathsFromAll base used children
  | scalar _ condition => return addPath used (← joinPath base condition.path)
  | array _ path _ _ _ predicate => do
      let path ← joinArrayPath base path
      usedPathsFromAll (elementBase path) (addPath used (.text path)) predicate

/-- The paths that several rules read. -/
def usedPathsFromAll (base : String) (used : List Value) :
    List RuleNode → Except Fault (List Value)
  | [] => return used
  | node :: rest => do
      let used ← usedPathsFrom base used node
      usedPathsFromAll base used rest

end

/-- Every path that a rule reads, in the order of the rule. -/
def usedPaths (node : RuleNode) : Except Fault (List Value) :=
  usedPathsFrom "" [] node

end RuleNode

namespace Trace

/-- A node of a trace that has a path, with that path from the top of the document. -/
structure Located where
  path : Value
  trace : Trace
  deriving Repr

mutual

/-- The conditions and array rules of a trace in walk order, with their paths below a base. -/
def locatedFrom (base : String) : Trace → Except Fault (List Located)
  | { kind, nodeId, result, message, path, logic, quantifier, matchedIndices, index, children } =>
      let own : Trace :=
        { kind, nodeId, result, message, path, logic, quantifier, matchedIndices, index, children }
      if kind = groupKind then locatedFromAll base children
      else if kind = scalarKind then do
        return [⟨← joinPath base path, own⟩]
      else if kind = arrayKind then do
        let path ← joinArrayPath base path
        let below ← locatedFromAll (elementBase path) children
        return ⟨.text path, own⟩ :: below
      else do
        return [⟨.text (← joinArrayPath base path), own⟩]

/-- The located nodes of several traces. -/
def locatedFromAll (base : String) : List Trace → Except Fault (List Located)
  | [] => return []
  | trace :: rest => do
      let first ← locatedFrom base trace
      let others ← locatedFromAll base rest
      return first ++ others

end

/-- The located nodes of a trace. -/
def located (trace : Trace) : Except Fault (List Located) :=
  locatedFrom "" trace

/-- A mapping from paths, in the order in which the paths were first set. -/
abbrev PathMap (α : Type) := List (Value × α)

/-- The value of a path. -/
def lookupPath {α : Type} (entries : PathMap α) (path : Value) : Option α :=
  (entries.find? fun entry => path.same entry.1).map (·.2)

/-- Sets the value of a path: in its place when it has one, at the end otherwise. -/
def setPath {α : Type} (entries : PathMap α) (path : Value) (value : α) : PathMap α :=
  if entries.any fun entry => path.same entry.1 then
    entries.map fun entry => if path.same entry.1 then (entry.1, value) else entry
  else
    entries ++ [(path, value)]

/-- Refuses a path that cannot be a key. -/
def checkKey (path : Value) : Except Fault Unit :=
  match path.unhashable? with
  | some typeName => .error (.unhashable typeName)
  | none => .ok ()

/-- For each path, whether some node there held. -/
def statusByPath (trace : Trace) : Except Fault (PathMap Bool) := do
  let nodes ← trace.located
  nodes.foldlM (fun status node => do
    checkKey node.path
    return setPath status node.path
      ((lookupPath status node.path).getD false || node.trace.result)) []

/-- The message of a node that failed with one. -/
def failure? (trace : Trace) : Option String :=
  if trace.result then none
  else trace.message.filter fun message => !message.isEmpty

/-- For each path where no node held, the first message of a failure there. -/
def messagesByPath (trace : Trace) : Except Fault (PathMap String) := do
  let nodes ← trace.located
  let messages ← nodes.foldlM (fun messages node => do
    match node.trace.failure? with
    | none => return messages
    | some message =>
        checkKey node.path
        return if (lookupPath messages node.path).isSome then messages
          else messages ++ [(node.path, message)]) []
  let status ← trace.statusByPath
  return messages.filter fun entry => !(lookupPath status entry.1).getD false

/-- For each path of an array rule, the positions of the elements that matched there. -/
def matchedIndicesByPath (trace : Trace) : Except Fault (PathMap (List Nat)) := do
  let nodes ← trace.located
  return (nodes.filter fun node => node.trace.kind == arrayKind).foldl (fun found node =>
    setPath found node.path
      ((lookupPath found node.path).getD [] ++ node.trace.matchedIndices.getD [])) []

end Trace

end Rulebook
