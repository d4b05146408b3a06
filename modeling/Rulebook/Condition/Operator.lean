import Rulebook.Fault

/-!
# Value types and operators

A condition declares the type it reads a value as, and each type has its own operators.
-/

namespace Rulebook

/-- The declared type of a condition. -/
inductive ValueType where
  | string
  | number
  | boolean
  | date
  | unknown
  deriving DecidableEq, Repr

/-- The operators of conditions. -/
inductive Operator where
  | eq
  | neq
  | contains
  | startsWith
  | endsWith
  | isIn
  | notIn
  | regex
  | exists
  | notExists
  | empty
  | notEmpty
  | gt
  | gte
  | lt
  | lte
  | between
  | before
  | after
  deriving DecidableEq, Repr

namespace ValueType

/-- All types, in the order in which messages list them. -/
def all : List ValueType := [string, number, boolean, date, unknown]

/-- The name of a type in rule documents. -/
def name : ValueType → String
  | string => "string"
  | number => "number"
  | boolean => "boolean"
  | date => "date"
  | unknown => "unknown"

/-- The type with a name. -/
def ofName? (name : String) : Option ValueType :=
  all.find? (·.name == name)

end ValueType

namespace Operator

/-- All operators, in the order in which messages list them. -/
def all : List Operator :=
  [eq, neq, contains, startsWith, endsWith, isIn, notIn, regex, «exists», notExists, empty,
   notEmpty, gt, gte, lt, lte, between, before, after]

/-- The name of an operator in rule documents. -/
def name : Operator → String
  | eq => "eq"
  | neq => "neq"
  | contains => "contains"
  | startsWith => "startsWith"
  | endsWith => "endsWith"
  | isIn => "in"
  | notIn => "notIn"
  | regex => "regex"
  | «exists» => "exists"
  | notExists => "notExists"
  | empty => "empty"
  | notEmpty => "notEmpty"
  | gt => "gt"
  | gte => "gte"
  | lt => "lt"
  | lte => "lte"
  | between => "between"
  | before => "before"
  | after => "after"

/-- The operator with a name. -/
def ofName? (name : String) : Option Operator :=
  all.find? (·.name == name)

/-- Whether the outcome of the operator depends on the operand. -/
def readsValue : Operator → Bool
  | «exists» | notExists | empty | notEmpty => false
  | _ => true

/-- Whether the outcome of the operator depends on the second operand. -/
def readsSecondValue : Operator → Bool
  | between => true
  | _ => false

end Operator

namespace ValueType

/-- The operators of a type. -/
def operators : ValueType → List Operator
  | string =>
      [.eq, .neq, .contains, .startsWith, .endsWith, .isIn, .notIn, .regex, .exists, .notExists,
       .empty, .notEmpty]
  | number =>
      [.eq, .neq, .gt, .gte, .lt, .lte, .between, .isIn, .notIn, .exists, .notExists]
  | boolean => [.eq, .neq, .exists, .notExists]
  | date => [.eq, .neq, .before, .after, .between, .exists, .notExists]
  | unknown => [.exists, .notExists]

/-- Whether conditions of the type may use an operator. -/
def allows (type : ValueType) (operator : Operator) : Bool :=
  type.operators.contains operator

/-- The operator that a new condition of a type has. -/
def defaultOperator : ValueType → Operator
  | string => .contains
  | number => .eq
  | boolean => .eq
  | date => .after
  | unknown => .exists

end ValueType

namespace Value

/-- The member of a closed family that a value names. -/
def member {α : Type} (family : String) (ofName? : String → Option α) (value : Value) :
    Except Fault α :=
  let known := match value with
    | text name => ofName? name
    | _ => none
  match known with
  | some member => .ok member
  | none => do .error (.notAMember (← value.literal) family)

/-- The type that a value names. -/
def asValueType : Value → Except Fault ValueType :=
  member "ValueType" ValueType.ofName?

/-- The operator that a value names. -/
def asOperator : Value → Except Fault Operator :=
  member "Operator" Operator.ofName?

end Value

/-- Whether two values name a type and an operator of that type. -/
def isLegal (type operator : Value) : Bool :=
  match operator.asOperator, type.asValueType with
  | .ok operator, .ok type => type.allows operator
  | _, _ => false

end Rulebook
