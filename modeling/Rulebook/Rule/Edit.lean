import Rulebook.Rule.Walk

/-!
# Editing rules

Nodes are moved, inserted, removed and replaced below groups; the predicate of an array rule is a
group like any other, but stays where it is.  An edit that cannot be carried out is rejected and
changes nothing.
-/

namespace Rulebook

/-- A node taken out of a tree: the node, the group it was in and its place there. -/
structure Removal where
  node : RuleNode
  container : String
  index : Nat
  deriving Repr

namespace RuleNode

/-- Takes the first child with an identity out of a list of children, with its place. -/
def takeChild (target : String) : List RuleNode → Option (List RuleNode × RuleNode × Nat)
  | [] => none
  | child :: rest =>
      if child.id = target then some (rest, child, 0)
      else (takeChild target rest).map fun (rest, node, index) => (child :: rest, node, index + 1)

mutual

/-- Takes a node out of a tree: a child of the node itself, or else one further down. -/
def detach (target : String) : RuleNode → Option (RuleNode × Removal)
  | group id logic children =>
      match takeChild target children with
      | some (rest, node, index) => some (group id logic rest, { node, container := id, index })
      | none => (detachBelow target children).map fun (rest, removal) =>
          (group id logic rest, removal)
  | scalar .. => none
  | array id path quantifier predicateId predicateLogic predicate =>
      match takeChild target predicate with
      | some (rest, node, index) =>
          some (array id path quantifier predicateId predicateLogic rest,
            { node, container := predicateId, index })
      | none => (detachBelow target predicate).map fun (rest, removal) =>
          (array id path quantifier predicateId predicateLogic rest, removal)

/-- Takes a node out of the first of several trees that has it below its root. -/
def detachBelow (target : String) : List RuleNode → Option (List RuleNode × Removal)
  | [] => none
  | child :: rest =>
      match detach target child with
      | some (child, removal) => some (child :: rest, removal)
      | none => (detachBelow target rest).map fun (rest, removal) => (child :: rest, removal)

end

/-- A place in a list of a given length; places before the start and behind the end are moved to
the start and the end. -/
def clampIndex (index : Option Int) (length : Nat) : Nat :=
  match index with
  | some index => min index.toNat length
  | none => length

/-- Puts a node into a list of children. -/
def insertAt (index : Option Int) (node : RuleNode) (children : List RuleNode) : List RuleNode :=
  children.insertIdx (clampIndex index children.length) node

mutual

/-- Puts a node into the first group with an identity. -/
def insertInto (container : String) (index : Option Int) (node : RuleNode) :
    RuleNode → Option RuleNode
  | group id logic children =>
      if id = container then some (group id logic (insertAt index node children))
      else (insertIntoOne container index node children).map (group id logic ·)
  | scalar .. => none
  | array id path quantifier predicateId predicateLogic predicate =>
      if predicateId = container then
        some (array id path quantifier predicateId predicateLogic (insertAt index node predicate))
      else
        (insertIntoOne container index node predicate).map
          (array id path quantifier predicateId predicateLogic ·)

/-- Puts a node into the first of several trees that has the group. -/
def insertIntoOne (container : String) (index : Option Int) (node : RuleNode) :
    List RuleNode → Option (List RuleNode)
  | [] => none
  | child :: rest =>
      match insertInto container index node child with
      | some child => some (child :: rest)
      | none => (insertIntoOne container index node rest).map (child :: ·)

end

end RuleNode

/-- Why a node is not moved. -/
inductive MoveRejection where
  | nodeNotFound
  /-- The destination is the moved node or a group below it. -/
  | insideItself
  | destinationNotFound
  deriving DecidableEq, Repr

/-- Why a node is not inserted. -/
inductive InsertRejection where
  | idTaken
  | containerNotFound
  deriving DecidableEq, Repr

/-- A tree in which a node has been moved, and the place it was put to in the tree without it. -/
structure Moved where
  root : RuleNode
  index : Int
  deriving Repr

namespace RuleNode

/-- Moves a node to a place among the children of a group.  The place counts the children before
the move, so behind the node's own place in the same group it is one less afterwards. -/
def move (root : RuleNode) (target destination : String) (index : Int) :
    Except MoveRejection Moved :=
  match root.detach target with
  | none => .error .nodeNotFound
  | some (rest, removal) =>
      if destination = target || removal.node.groupIds.contains destination then
        .error .insideItself
      else
        let index :=
          if destination = removal.container && (removal.index : Int) < index then index - 1
          else index
        match insertInto destination (some index) removal.node rest with
        | some root => .ok { root, index }
        | none => .error .destinationNotFound

/-- Inserts a node among the children of a group, at the end when no place is given. -/
def insert (root : RuleNode) (container : String) (node : RuleNode) (index : Option Int) :
    Except InsertRejection RuleNode :=
  if (root.find? node.id).isSome then .error .idTaken
  else match insertInto container index node root with
    | some root => .ok root
    | none => .error .containerNotFound

/-- Removes a node; the root and the predicate of an array rule cannot be removed.  The result
also tells the group that the node was in. -/
def remove? (root : RuleNode) (target : String) : Option (RuleNode × String) :=
  (root.detach target).map fun (rest, removal) => (rest, removal.container)

/-- Puts another rule in the place of a node; it takes over the identity of the node. -/
def replace? (root : RuleNode) (target : String) (replacement : RuleNode) : Option RuleNode :=
  let replacement := replacement.withId target
  if root.id = target then some replacement
  else
    (root.detach target).bind fun (rest, removal) =>
      insertInto removal.container (some removal.index) replacement rest

end RuleNode

end Rulebook
