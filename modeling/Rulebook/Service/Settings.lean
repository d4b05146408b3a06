import Rulebook.Document.Field

/-!
# Settings

What an engine and a service can be set to: values given directly come before environment variables,
which come before the defaults.  All problems are found together, in the order of the fields.
-/

namespace Rulebook

/-- The settings of an engine and a service. -/
structure Settings where
  environment : String := "local"
  logLevel : String := "info"
  serviceName : String := "roles"
  /-- What separates the members of a list that is given as one text. -/
  listDelimiter : String := ","
  /-- Rule documents of more levels are refused. -/
  maxRuleDepth : Int := 32
  /-- Whether the traces of the elements of a sequence are kept. -/
  traceElements : Bool := true
  delimiterGiven : listDelimiter ≠ "" := by decide
  depthPositive : 1 ≤ maxRuleDepth := by decide
  deriving Repr

namespace Settings

/-- What the names of environment variables start with, in lower case. -/
def variableStem : List Char := "roles_".toList

/-- The value that the environment gives to a setting.  Names are compared without regard to case,
and the last variable of a name counts. -/
def fromEnvironment? (environment : List (String × String)) (name : String) : Option Value :=
  ((environment.filter fun entry =>
    (Text.lower entry.1).toList == variableStem ++ name.toList).getLast?).map
      fun entry => .text entry.2

/-- The value of a setting: one given directly, one of the environment, or the default. -/
def read {α : Type} (overrides : List (String × Value)) (environment : List (String × String))
    (name : String) (reader : Value → Field.Read α) (default : α) : Field.Read α :=
  match (overrides.lookup name).orElse fun _ => fromEnvironment? environment name with
  | some value => reader value
  | none => .ok default

/-- A text that is not empty. -/
def delimiter (value : Value) : Field.Read { text : String // text ≠ "" } := do
  let text ← Field.text value
  if given : text ≠ "" then .ok ⟨text, given⟩ else .error .emptyText

/-- An integer that is at least one. -/
def positive (value : Value) : Field.Read { number : Int // 1 ≤ number } := do
  let number ← Field.integer value
  if positive : 1 ≤ number then .ok ⟨number, positive⟩ else .error .belowOne

/-- The settings that values given directly and the environment make. -/
def make (overrides : List (String × Value)) (environment : List (String × String)) :
    Except Fault Settings :=
  let defaults : Settings := {}
  let env := read overrides environment "env" Field.text defaults.environment
  let logLevel := read overrides environment "log_level" Field.text defaults.logLevel
  let serviceName := read overrides environment "service_name" Field.text defaults.serviceName
  let listDelimiter := read overrides environment "list_delimiter" delimiter
    ⟨defaults.listDelimiter, defaults.delimiterGiven⟩
  let maxRuleDepth := read overrides environment "max_rule_depth" positive
    ⟨defaults.maxRuleDepth, defaults.depthPositive⟩
  let traceElements := read overrides environment "trace_elements" Field.boolean
    defaults.traceElements
  match env, logLevel, serviceName, listDelimiter, maxRuleDepth, traceElements with
  | .ok environment, .ok logLevel, .ok serviceName, .ok ⟨listDelimiter, delimiterGiven⟩,
      .ok ⟨maxRuleDepth, depthPositive⟩, .ok traceElements =>
      .ok { environment, logLevel, serviceName, listDelimiter, maxRuleDepth, traceElements,
            delimiterGiven, depthPositive }
  | env, logLevel, serviceName, listDelimiter, maxRuleDepth, traceElements =>
      .error (.fields (Field.issue "env" env ++ Field.issue "log_level" logLevel ++
        Field.issue "service_name" serviceName ++ Field.issue "list_delimiter" listDelimiter ++
        Field.issue "max_rule_depth" maxRuleDepth ++
        Field.issue "trace_elements" traceElements))

/-- The settings as a mapping. -/
def toValue (settings : Settings) : Value :=
  .mapping [("env", .text settings.environment), ("log_level", .text settings.logLevel),
    ("service_name", .text settings.serviceName),
    ("list_delimiter", .text settings.listDelimiter),
    ("max_rule_depth", .int settings.maxRuleDepth),
    ("trace_elements", .bool settings.traceElements)]

end Settings

end Rulebook
