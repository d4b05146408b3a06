import Rulebook.Rule.Node

/-!
# Walking over rules

The nodes of a rule in pre-order.  The predicate of an array rule counts as a group below it.
-/

namespace Rulebook.RuleNode

mutual

/-- The nodes of a rule in pre-order, itself included. -/
def nodes : RuleNode → List RuleNode
  | group id logic children => group id logic children :: nodesOf children
  | scalar id condition => [scalar id condition]
  | array id path quantifier predicateId predicateLogic predicate =>
      array id path quantifier predicateId predicateLogic predicate ::
        group predicateId predicateLogic predicate :: nodesOf predicate

/-- The nodes of several rules, one rule after the other. -/
def nodesOf : List RuleNode → List RuleNode
  | [] => []
  | node :: rest => nodes node ++ nodesOf rest

end

/-- The identities in a rule, in pre-order. -/
def ids (root : RuleNode) : List String := root.nodes.map id

/-- The first node with an identity. -/
def find? (root : RuleNode) (target : String) : Option RuleNode :=
  root.nodes.find? fun node => node.id == target

/-- The identities of the groups in a rule, in pre-order. -/
def groupIds (root : RuleNode) : List String :=
  (root.nodes.filter isGroup).map id

end Rulebook.RuleNode
