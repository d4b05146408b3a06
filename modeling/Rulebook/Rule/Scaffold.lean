import Rulebook.Path.Resolve
import Rulebook.Rule.Session
import Rulebook.Text.Digit

/-!
# Rules from samples

A rule for a location of a sample document: a condition on the value found there, inside one array
rule for each marked step of the path.  Sequences are represented by their first element that is not
null.
-/

namespace Rulebook

namespace Value

/-- Whether a text starts with four, two and two digits of any script, joined by hyphens. -/
def startsWithDate : List Char → Bool
  | y₁ :: y₂ :: y₃ :: y₄ :: '-' :: m₁ :: m₂ :: '-' :: d₁ :: d₂ :: _ =>
      [y₁, y₂, y₃, y₄, m₁, m₂, d₁, d₂].all Text.isDecimal
  | _ => false

/-- The value type that a sample suggests. -/
def suggestedType : Value → ValueType
  | date _ | dateTime _ => .date
  | int _ | float _ => .number
  | bool _ => .boolean
  | text value => if startsWithDate value.toList then .date else .string
  | _ => .unknown

/-- The operand of a condition seeded from a sample: the date alone for dates, nothing for samples
of unknown type. -/
def seed : Value → Value
  | dateTime value => text value.date.isoText
  | date value => text value.isoText
  | text value =>
      if startsWithDate value.toList then text (String.ofList (value.toList.take 10))
      else text value
  | value => if value.suggestedType = .unknown then null else value

end Value

theorem ValueType.allows_defaultOperator (type : ValueType) :
    type.allows type.defaultOperator = true := by
  cases type <;> rfl

namespace Condition

/-- The condition on a path that a sample suggests. -/
def ofSample (path sample : Value) : Condition :=
  { path
    type := sample.suggestedType
    operator := sample.suggestedType.defaultOperator
    value := sample.seed
    value2 := .null
    legal := sample.suggestedType.allows_defaultOperator }

end Condition

namespace RuleNode

/-- The condition on a path that a sample suggests, with the next identity of the session. -/
def ofSample (path sample : Value) : Issuing RuleNode := do
  let id ← nextId
  return .scalar id (.ofSample path sample)

/-- Whether an element of a sequence is a plain value that a condition can be about. -/
def isPlainElement (element : Value) : Bool :=
  match element.kind with
  | .mapping | .sequence => false
  | _ => !element.isAbsent

/-- The first element that is not null of a value that is a sequence. -/
def representative (elements : Value) : Value :=
  match elements.items? with
  | some items => Value.firstNonNull items
  | none => .absent

/-- The rule for the rest of a path below `front`, in which no step is marked. -/
def scaffoldFrom (front : Path) : Path → (sample : Value) → Issuing RuleNode
  | [], sample => do
      let path := front.format
      let value ← (Path.parse path).resolve true sample
      ofSample (.text path) value
  | segment :: rest, sample =>
      if segment.isMarked then do
        let path := Path.format (front ++ [segment.unmarked])
        let elements ← (Path.parse path).resolve true sample
        let element := representative elements
        let id ← nextId
        let predicateId ← nextId
        let children ←
          if !rest.isEmpty then do
            let child ← scaffoldFrom [] rest element
            pure [child]
          else if isPlainElement element then do
            let child ← ofSample (.text "") element
            pure [child]
          else pure []
        return .array id (.text path) .any predicateId .and children
      else scaffoldFrom (front ++ [segment]) rest sample

/-- The rule for a location of a sample document. -/
def scaffold (path : Path) (sample : Value) : Issuing RuleNode :=
  scaffoldFrom [] path sample

end RuleNode

end Rulebook
