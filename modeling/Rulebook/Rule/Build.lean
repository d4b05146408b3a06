import Rulebook.Rule.Session

/-!
# Building rules from values

A rule is built only when its parts are what they have to be: names of known families, operators of
the declared type, rules where rules are expected, and counts and indices where the quantifier reads
them and nowhere else.
-/

namespace Rulebook

/-- What is offered where a rule is expected. -/
inductive Part where
  | node (node : RuleNode)
  | other (value : Value)
  deriving Repr

/-- A condition, when its operator belongs to its type. -/
def Condition.make (path : Value) (type : ValueType) (operator : Operator)
    (value value2 : Value) : Except Fault Condition :=
  if legal : type.allows operator = true then
    .ok { path, type, operator, value, value2, legal }
  else
    .error (.rule ("operator " ++ operator.name ++ " is not allowed for " ++ type.name)
      [("path", path), ("op", .text operator.name), ("valueType", .text type.name)])

namespace Value

/-- A natural number, given as an integer. -/
def natural (name : String) (value : Value) : Except Fault Nat :=
  match value with
  | int (.ofNat number) => .ok number
  | value => .error (.rule (name ++ " must be a non-negative integer") [(name, value)])

end Value

namespace QuantifierKind

/-- Refuses a number that a quantifier does not read. -/
def unused (kind : QuantifierKind) (name : String) (path value : Value) : Except Fault Unit :=
  if value.isNull then .ok ()
  else .error (.rule (name ++ " is not used by " ++ kind.name) [("path", path)])

/-- The quantifier of a kind with its count or index. -/
def make (kind : QuantifierKind) (path count index : Value) : Except Fault Quantifier :=
  match kind with
  | any => do
      unused any "count" path count
      unused any "index" path index
      return .any
  | all => do
      unused all "count" path count
      unused all "index" path index
      return .all
  | none => do
      unused none "count" path count
      unused none "index" path index
      return .none
  | countAtLeast => do
      let number ← count.natural "count"
      unused countAtLeast "index" path index
      return .countAtLeast number
  | countExactly => do
      let number ← count.natural "count"
      unused countExactly "index" path index
      return .countExactly number
  | countAtMost => do
      let number ← count.natural "count"
      unused countAtMost "index" path index
      return .countAtMost number
  | .index => do
      unused .index "count" path count
      let position ← index.natural "index"
      return .index position

end QuantifierKind

namespace Part

/-- The rule that is offered; anything else is refused. -/
def rule : Part → Except Fault RuleNode
  | .node rule => .ok rule
  | .other value => do .error (.notARule (← value.literal))

/-- The rules among the children that a group is offered, all of which have to be rules. -/
def nodes : List Part → Except Fault (List RuleNode)
  | [] => .ok []
  | .node rule :: parts => (nodes parts).map (rule :: ·)
  | .other value :: _ => do
      let shown ← value.literal
      .error (.rule "group children must be rule nodes" [("child", .text shown)])

end Part

namespace RuleNode

/-- The fault of an array rule whose predicate is no group. -/
def badPredicate (path : Value) : Fault :=
  .rule "array predicate must be a group" [("path", path)]

/-- Builds a group. -/
def buildGroup (id : String) (logic : Value) (children : List Part) : Except Fault RuleNode := do
  let logic ← logic.member "Logic" Logic.ofName?
  let children ← Part.nodes children
  return .group id logic children

/-- Builds a condition. -/
def buildScalar (id : String) (path type operator value value2 : Value) :
    Except Fault RuleNode := do
  let type ← type.asValueType
  let operator ← operator.asOperator
  let condition ← Condition.make path type operator value value2
  return .scalar id condition

/-- Builds an array rule. -/
def buildArray (id : String) (path quantifier : Value) (predicate : Part)
    (count index : Value) : Except Fault RuleNode := do
  let kind ← quantifier.member "Quantifier" QuantifierKind.ofName?
  match predicate with
  | .node (.group predicateId logic children) => do
      let quantifier ← kind.make path count index
      return .array id path quantifier predicateId logic children
  | _ => .error (badPredicate path)

/-- Builds a group with the next identity of the session. -/
def newGroup (logic : Value) (children : List Part) : Issuing RuleNode := do
  let id ← nextId
  buildGroup id logic children

/-- Builds a condition with the next identity of the session. -/
def newScalar (path type operator value value2 : Value) : Issuing RuleNode := do
  let id ← nextId
  buildScalar id path type operator value value2

/-- Builds an array rule with the next identity of the session.  A null predicate stands for an
empty group, which gets the identity after that. -/
def newArray (path quantifier : Value) (predicate : Part) (count index : Value) :
    Issuing RuleNode := do
  let id ← nextId
  let predicate ← match predicate with
    | .other .null => Part.node <$> newGroup (.text Logic.and.name) []
    | predicate => pure predicate
  buildArray id path quantifier predicate count index

end RuleNode

end Rulebook
