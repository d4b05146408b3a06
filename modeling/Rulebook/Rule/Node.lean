import Rulebook.Condition.Operator

/-!
# Rules

A rule is a tree.  Its leaves are conditions on single values; groups combine rules, and array
rules ask how many elements of a sequence satisfy a group.  The node of a rule has an identity that
is independent of what the rule means.
-/

namespace Rulebook

/-- How a group combines its children. -/
inductive Logic where
  | and
  | or
  deriving DecidableEq, Repr

namespace Logic

/-- Both ways, in the order in which messages list them. -/
def all : List Logic := [and, or]

/-- The name in rule documents. -/
def name : Logic → String
  | and => "AND"
  | or => "OR"

/-- The logic with a name. -/
def ofName? (name : String) : Option Logic :=
  all.find? (·.name == name)

end Logic

/-- The kinds of conditions on the number of matching elements. -/
inductive QuantifierKind where
  | any
  | all
  | none
  | countAtLeast
  | countExactly
  | countAtMost
  | index
  deriving DecidableEq, Repr

namespace QuantifierKind

/-- All kinds, in the order in which messages list them. -/
def members : List QuantifierKind :=
  [any, all, none, countAtLeast, countExactly, countAtMost, index]

/-- The name in rule documents. -/
def name : QuantifierKind → String
  | any => "ANY"
  | all => "ALL"
  | none => "NONE"
  | countAtLeast => "COUNT_GTE"
  | countExactly => "COUNT_EQ"
  | countAtMost => "COUNT_LTE"
  | index => "INDEX"

/-- The kind with a name. -/
def ofName? (name : String) : Option QuantifierKind :=
  members.find? (·.name == name)

/-- Whether a quantifier of this kind has a count. -/
def readsCount : QuantifierKind → Bool
  | countAtLeast | countExactly | countAtMost => true
  | _ => false

/-- Whether a quantifier of this kind has an index. -/
def readsIndex : QuantifierKind → Bool
  | index => true
  | _ => false

end QuantifierKind

/-- A condition on the matching elements of a sequence. -/
inductive Quantifier where
  | any
  | all
  | none
  | countAtLeast (count : Nat)
  | countExactly (count : Nat)
  | countAtMost (count : Nat)
  | index (position : Nat)
  deriving DecidableEq, Repr

namespace Quantifier

/-- The kind of a quantifier. -/
def kind : Quantifier → QuantifierKind
  | any => .any
  | all => .all
  | none => .none
  | countAtLeast _ => .countAtLeast
  | countExactly _ => .countExactly
  | countAtMost _ => .countAtMost
  | index _ => .index

/-- The name in rule documents. -/
def name (quantifier : Quantifier) : String := quantifier.kind.name

/-- The count, when the quantifier has one. -/
def count? : Quantifier → Option Nat
  | countAtLeast count | countExactly count | countAtMost count => some count
  | _ => Option.none

/-- The index, when the quantifier has one. -/
def index? : Quantifier → Option Nat
  | index position => some position
  | _ => Option.none

end Quantifier

/-- A condition on the value at a path. -/
structure Condition where
  path : Value
  type : ValueType
  operator : Operator
  value : Value
  value2 : Value
  legal : type.allows operator = true
  deriving Repr

/-- A node of a rule, with the rules below it. -/
inductive RuleNode where
  | group (id : String) (logic : Logic) (children : List RuleNode)
  | scalar (id : String) (condition : Condition)
  /-- An array rule; the group that elements have to satisfy is given by its parts. -/
  | array (id : String) (path : Value) (quantifier : Quantifier)
      (predicateId : String) (predicateLogic : Logic) (predicate : List RuleNode)
  deriving Repr

namespace RuleNode

/-- The identity of a node. -/
def id : RuleNode → String
  | group id .. | scalar id _ | array id .. => id

/-- The same rule under another identity. -/
def withId (id : String) : RuleNode → RuleNode
  | group _ logic children => group id logic children
  | scalar _ condition => scalar id condition
  | array _ path quantifier predicateId predicateLogic predicate =>
      array id path quantifier predicateId predicateLogic predicate

/-- Whether the node is a group. -/
def isGroup : RuleNode → Bool
  | group .. => true
  | _ => false

end RuleNode

/-- The names of the kinds of nodes in rule documents and traces. -/
def groupKind : String := "group"

/-- The name of conditions. -/
def scalarKind : String := "scalar"

/-- The name of array rules. -/
def arrayKind : String := "array"

end Rulebook
