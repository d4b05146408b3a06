import Rulebook.Json.Writer
import Rulebook.Rule.Node

/-!
# The portable form of rules

A rule as a mapping of plain values, without identities and without the operands that its operator
does not read, and the compact JSON text of that mapping.
-/

namespace Rulebook

namespace Value

mutual

/-- An operand in portable form: dates as texts and fixed sequences as lists, item by item.  Lists
and mappings are taken as they are. -/
def portable : Value → Value
  | date value => text value.isoText
  | dateTime value => text value.isoText
  | tuple items => list (portableItems items)
  | value => value

/-- The items of a fixed sequence in portable form. -/
def portableItems : List Value → List Value
  | [] => []
  | item :: items => portable item :: portableItems items

end

end Value

/-- The portable form of a condition. -/
def Condition.portable (condition : Condition) : List (String × Value) :=
  [("kind", .text scalarKind), ("path", condition.path),
    ("valueType", .text condition.type.name), ("op", .text condition.operator.name)] ++
  (if condition.operator.readsValue then [("value", condition.value.portable)] else []) ++
  (if condition.operator.readsSecondValue then [("value2", condition.value2.portable)] else [])

/-- The portable form of a group with the given children. -/
def portableGroup (logic : Logic) (children : List Value) : Value :=
  .mapping [("kind", .text groupKind), ("logic", .text logic.name), ("children", .list children)]

/-- The count or index that the portable form of a quantifier has. -/
def Quantifier.portable (quantifier : Quantifier) : List (String × Value) :=
  (quantifier.count?.toList.map fun count => ("count", .int count)) ++
  (quantifier.index?.toList.map fun index => ("index", .int index))

namespace RuleNode

mutual

/-- The portable form of a rule. -/
def portable : RuleNode → Value
  | group _ logic children => portableGroup logic (portableAll children)
  | scalar _ condition => .mapping condition.portable
  | array _ path quantifier _ predicateLogic predicate =>
      .mapping ([("kind", .text arrayKind), ("path", path),
          ("quantifier", .text quantifier.name)] ++ quantifier.portable ++
        [("predicate", portableGroup predicateLogic (portableAll predicate))])

/-- The portable forms of several rules. -/
def portableAll : List RuleNode → List Value
  | [] => []
  | node :: rest => portable node :: portableAll rest

end

/-- The compact JSON text of the portable form. -/
def canonicalJson (node : RuleNode) : Except Fault String :=
  Json.text node.portable

end RuleNode

end Rulebook
