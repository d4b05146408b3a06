import Rulebook.Rule.Build
import Rulebook.Rule.Edit
import Rulebook.Service.Journal

/-!
# Recorded edits

The edits of rules with the events they leave in the journal.  An edit that changes nothing gives no
tree.
-/

namespace Rulebook

/-- The logger of edits. -/
def editorLogger : String := "roles.editor"

namespace MoveRejection

/-- The event of a rejected move. -/
def event (target destination : String) : MoveRejection → Event
  | nodeNotFound =>
      { logger := editorLogger, level := .warning, event := "Move rejected: node not found"
        fields := [("node_id", .text target)] }
  | insideItself =>
      { logger := editorLogger, level := .warning
        event := "Move rejected: destination inside moved subtree"
        fields := [("node_id", .text target), ("dest_container_id", .text destination)] }
  | destinationNotFound =>
      { logger := editorLogger, level := .warning
        event := "Move rejected: destination not found"
        fields := [("node_id", .text target), ("dest_container_id", .text destination)] }

end MoveRejection

/-- The event of a move that is carried out. -/
def Moved.event (target destination : String) (moved : Moved) : Event :=
  { logger := editorLogger, level := .info, event := "Rule moved"
    fields := [("node_id", .text target), ("dest_container_id", .text destination),
      ("dest_index", .int moved.index)] }

namespace InsertRejection

/-- The event of a rejected insertion. -/
def event (container target : String) : InsertRejection → Event
  | idTaken =>
      { logger := editorLogger, level := .warning
        event := "Insert rejected: node id already in tree"
        fields := [("node_id", .text target)] }
  | containerNotFound =>
      { logger := editorLogger, level := .warning
        event := "Insert rejected: container not found"
        fields := [("container_id", .text container)] }

end InsertRejection

namespace RuleNode

/-- Moves a node. -/
def moveLogged (root : RuleNode) (target destination : String) (index : Int) :
    Logged (Option RuleNode) := do
  match root.move target destination index with
  | .error rejection =>
      log (rejection.event target destination)
      return none
  | .ok moved =>
      log (moved.event target destination)
      return some moved.root

/-- Inserts what is offered as a rule. -/
def insertLogged (root : RuleNode) (container : String) (part : Part) (index : Option Int) :
    Logged (Option RuleNode) := do
  match part with
  | .other value => throw (.noProperty value.qualifiedTypeName "node_id")
  | .node node =>
      match root.insert container node index with
      | .error rejection =>
          log (rejection.event container node.id)
          return none
      | .ok root => return some root

/-- Removes a node. -/
def removeLogged (root : RuleNode) (target : String) : Logged (Option RuleNode) := do
  match root.remove? target with
  | none => return none
  | some (root, container) =>
      log { logger := editorLogger, level := .info, event := "Rule removed"
            fields := [("node_id", .text target), ("container_id", .text container)] }
      return some root

/-- Puts what is offered as a rule in the place of a node. -/
def replaceWith (root : RuleNode) (target : String) (part : Part) :
    Except Fault (Option RuleNode) :=
  match part with
  | .other _ => .error .notReplaceable
  | .node node => .ok (root.replace? target node)

end RuleNode

end Rulebook
