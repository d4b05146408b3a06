import Rulebook.Rule.Load
import Rulebook.Rule.Portable
import Rulebook.Rule.Walk
import Rulebook.Service.Engine

/-!
# The service

Policies are rule documents whose root is a group.  The service evaluates a policy on one document
or on many, and checks policies; each request is recorded in the journal.
-/

namespace Rulebook

/-- One problem of a rule document. -/
structure Issue where
  path : Option String
  message : String
  deriving DecidableEq, Repr

namespace Issue

/-- An issue whose parts may be any values; both have to be texts. -/
def make (path message : Value) : Except Fault Issue :=
  match Field.optionalText path, Field.text message with
  | .ok path, .ok message => .ok { path, message }
  | path, message => .error (.fields (Field.issue "path" path ++ Field.issue "message" message))

/-- The issue of one entry of a problem list at a location. -/
def ofEntry (location entry : Value) : Except Fault Issue :=
  match entry with
  | .mapping entries => do
      let name := (entries.lookup "loc").getD .null
      let path ←
        if name.isTruthy then do
          let place ← location.plain
          let name ← name.plain
          pure (Value.text (place ++ "." ++ name))
        else pure location
      match entries.lookup "message" with
      | some message => make path message
      | none => .error (.missingKey "message")
  | entry => .error (.noProperty entry.qualifiedTypeName "get")

/-- The issues that the details of a rejection tell, or its message when they tell none. -/
def ofDetails (message : Value) (details : List (String × Value)) : Except Fault (List Issue) := do
  let location := (details.lookup "location").getD .null
  let nested := (details.lookup "errors").getD .null
  if nested.isTruthy then
    let entries ← nested.elements
    entries.mapM (ofEntry location)
  else
    return [← make location message]

end Issue

/-- A report of a rejection that is sent to a caller. -/
structure ErrorResponse where
  requestId : Option String
  code : String
  message : String
  details : List (String × Value)
  deriving Repr

namespace ErrorResponse

/-- A report whose parts may be any values. -/
def make (requestId code message details : Value) : Except Fault ErrorResponse :=
  let details := if details.isTruthy then details else .mapping []
  let requestId := Field.optionalText requestId
  let code := Field.text code
  let message := Field.text message
  let details := Field.entries details
  match requestId, code, message, details with
  | .ok requestId, .ok code, .ok message, .ok details =>
      .ok { requestId, code, message, details }
  | requestId, code, message, details =>
      .error (.fields (Field.issue "request_id" requestId ++ Field.issue "code" code ++
        Field.issue "message" message ++ Field.issue "details" details))

end ErrorResponse

/-- The answer to an evaluation. -/
structure EvaluateAnswer where
  trace : Trace
  canonical : Value
  deriving Repr

/-- The answer to a check: the canonical form of a valid policy, or what is wrong with it. -/
inductive ValidateAnswer where
  | valid (canonical : Value)
  | invalid (issues : List Issue)
  deriving Repr

namespace Service

/-- The fault of a document whose root is no group. -/
def rootNotGroup : Fault :=
  .document "rules root must have kind \"group\"" [("location", .text "$")]

/-- Loads a policy. -/
def loadPolicy (settings : Settings) (rules : Value) : Issuing RuleNode := do
  let node ← RuleNode.ofPortable settings.maxRuleDepth rules
  if node.isGroup then return node else throw rootNotGroup

/-- Loads a policy with identities of its own. -/
def policy (settings : Settings) (rules : Value) : Except Fault RuleNode :=
  ((loadPolicy settings rules).run (.fresh Session.defaultStem)).1

/-- The logger of a service. -/
def loggerName (settings : Settings) : String := settings.serviceName ++ ".service"

/-- The event of a rejected document. -/
def rejectionEvent (settings : Settings) (event : String) (rejection : Rejection) : Event :=
  { logger := loggerName settings, level := .warning, event
    fields := [("error", .text rejection.message), ("details", .mapping rejection.details)] }

/-- Makes the settings of a service and sets the level of the journal to theirs. -/
def start (overrides : List (String × Value)) (environment : List (String × String)) :
    Logged Settings := do
  let settings ← logged (Settings.make overrides environment)
  let threshold ← logged (Journal.thresholdOf settings.logLevel)
  modify fun journal => { journal with threshold }
  return settings

/-- The rules of a request, which have to be a mapping. -/
def requestRules (rules : Value) : Except Fault Value :=
  match Field.entries rules with
  | .ok entries => .ok (.mapping entries)
  | .error problem => .error (.fields [{ field := "rules", problem }])

/-- Carries out a request under its identity and that of the role; both are forgotten at its
end. -/
def during {α : Type} (requestId : String) (roleId : Option String) (request : Logged α) :
    Logged α :=
  fun journal =>
    let (result, journal) := request.run ((journal.setRequest requestId).setRole roleId)
    (result, journal.clear)

/-- Carries out a request and records a rejection of its document. -/
def reporting {α : Type} (settings : Settings) (request : Logged α) : Logged α :=
  tryCatch request fun
    | .rejected { category := .document, message, details } => do
        log (rejectionEvent settings "Rejected rule document"
          { category := .document, message, details })
        throw (.rejected { category := .document, message, details })
    | fault => throw fault

/-- Evaluates a policy on a document. -/
def evaluate (settings : Settings) (rules payload : Value) (requestId : String)
    (roleId : Option String) : Logged EvaluateAnswer := do
  let rules ← logged (requestRules rules)
  during requestId roleId <| reporting settings do
    let policy ← logged (policy settings rules)
    let trace ← policy.evaluateLogged settings payload
    log { logger := loggerName settings, level := .info, event := "Role rules evaluated"
          fields := [("matched", .bool trace.result)] }
    return { trace, canonical := policy.portable }

/-- Checks a policy. -/
def validate (settings : Settings) (rules : Value) (requestId : String) (roleId : Option String) :
    Logged ValidateAnswer := do
  let rules ← logged (requestRules rules)
  during requestId roleId do
    match policy settings rules with
    | .ok policy =>
        log { logger := loggerName settings, level := .info, event := "Role rules valid"
              fields := [("node_count", .int policy.nodes.length)] }
        return .valid policy.portable
    | .error (.rejected { category := .document, message, details }) =>
        log (rejectionEvent settings "Role rules invalid"
          { category := .document, message, details })
        return .invalid (← logged (Issue.ofDetails (.text message) details))
    | .error fault => throw fault

/-- The documents of a batch, which have to be keyed. -/
def keyedPayloads (payloads : Value) : Except Fault (List (String × Value)) :=
  match payloads with
  | .mapping entries => .ok entries
  | payloads => .error (.rejected
      { category := .request, message := "payloads must be keyed by user"
        details := [("type", .text payloads.typeName)] })

/-- Splits keyed documents by whether they satisfy a policy. -/
def evaluateMany (settings : Settings) (rules payloads : Value) (requestId : String)
    (roleId : Option String) : Logged Partition := do
  let documents ← logged (keyedPayloads payloads)
  during requestId roleId <| reporting settings do
    let policy ← logged (policy settings rules)
    policy.partitionLogged settings documents

end Service

end Rulebook
