import Rulebook.Document.Field
import Rulebook.Rule.Build

/-!
# Nodes of rule documents

A node of a rule document is a mapping that names its kind.  Names are read in any letter case;
older documents write `rules` for `children` and `valuetype` for `valueType`.  All problems of a
node are found together, in the order of its fields.
-/

namespace Rulebook

/-- The kinds of nodes. -/
inductive NodeKind where
  | group
  | scalar
  | array
  deriving DecidableEq, Repr

namespace NodeKind

/-- The name in rule documents and traces. -/
def name : NodeKind → String
  | group => groupKind
  | scalar => scalarKind
  | array => arrayKind

/-- The kind that a value names, in any letter case. -/
def ofValue? : Value → Option NodeKind
  | .text text => [group, scalar, array].find? fun kind => kind.name == Text.lower text
  | _ => none

end NodeKind

/-- The fields of a node of a rule document. -/
inductive NodeDocument where
  | group (logic : Logic) (children : List Value)
  | scalar (path : String) (type : ValueType) (operator : Operator) (value value2 : Value)
  | array (path : String) (quantifier : QuantifierKind) (count index : Option Int)
      (predicate : Value)
  deriving Repr

namespace NodeDocument

/-- A field that has to be there. -/
def required {α : Type} (read : Value → Field.Read α) : Option Value → Field.Read α
  | some value => read value
  | none => .error .missing

/-- The value of a field, or null. -/
def valueOr (value : Option Value) : Value := value.getD .null

/-- A text in another letter case; other values as they are. -/
def mapText (change : String → String) : Value → Value
  | .text text => .text (change text)
  | value => value

/-- The first of two names of a field that is there, with its value. -/
def either (first second : String) (entries : List (String × Value)) :
    String × Option Value :=
  match entries.lookup first, entries.lookup second with
  | some value, _ => (first, some value)
  | none, some value => (second, some value)
  | none, none => (first, none)

/-- Reads the name of a logic in any letter case. -/
def logic (value : Value) : Field.Read Logic :=
  Field.member (Logic.all.map Logic.name) Logic.ofName? (mapText Text.upper value)

/-- Reads the name of a quantifier in any letter case. -/
def quantifier (value : Value) : Field.Read QuantifierKind :=
  Field.member (QuantifierKind.members.map QuantifierKind.name) QuantifierKind.ofName?
    (mapText Text.upper value)

/-- Reads the name of a value type in any letter case. -/
def valueType (value : Value) : Field.Read ValueType :=
  Field.member (ValueType.all.map ValueType.name) ValueType.ofName? (mapText Text.lower value)

/-- The operator whose name agrees with a text in lower case. -/
def operatorNamed? (text : String) : Option Operator :=
  Operator.all.find? fun operator => Text.lower operator.name == Text.lower text

/-- Reads the name of an operator, as a text in any letter case. -/
def operator (value : Value) : Field.Read Operator :=
  match value with
  | .text text =>
      (operatorNamed? text).elim (.error (.notAmong (Operator.all.map Operator.name))) .ok
  | value => Field.member (Operator.all.map Operator.name) Operator.ofName? value

/-- Reads a list of children; null is an empty list. -/
def children : Value → Field.Read (List Value)
  | .null => .ok []
  | value => Field.items value

/-- Reads a predicate, which has to be a mapping. -/
def predicate (value : Value) : Field.Read Value :=
  (Field.entries value).map .mapping

/-- Reads the fields of a node, or tells every problem they have. -/
def read (kind : NodeKind) (entries : List (String × Value)) :
    Except (List FieldIssue) NodeDocument :=
  let field (name : String) : Option Value := List.lookup name entries
  match kind with
  | .group =>
      let logic := required logic (field "logic")
      let (name, given) := either "children" "rules" entries
      let children := children (valueOr given)
      match logic, children with
      | .ok logic, .ok children => .ok (group logic children)
      | logic, children => .error (Field.issue "logic" logic ++ Field.issue name children)
  | .scalar =>
      let path := required Field.text (field "path")
      let (name, given) := either "valueType" "valuetype" entries
      let type := required valueType given
      let operator := required operator (field "op")
      match path, type, operator with
      | .ok path, .ok type, .ok operator =>
          .ok (scalar path type operator (valueOr (field "value")) (valueOr (field "value2")))
      | path, type, operator =>
          .error (Field.issue "path" path ++ Field.issue name type ++ Field.issue "op" operator)
  | .array =>
      let path := required Field.text (field "path")
      let quantifier := required quantifier (field "quantifier")
      let count := Field.optionalInteger (valueOr (field "count"))
      let index := Field.optionalInteger (valueOr (field "index"))
      let predicate := required predicate (field "predicate")
      match path, quantifier, count, index, predicate with
      | .ok path, .ok quantifier, .ok count, .ok index, .ok predicate =>
          .ok (array path quantifier count index predicate)
      | path, quantifier, count, index, predicate =>
          .error (Field.issue "path" path ++ Field.issue "quantifier" quantifier ++
            Field.issue "count" count ++ Field.issue "index" index ++
            Field.issue "predicate" predicate)

end NodeDocument

end Rulebook
