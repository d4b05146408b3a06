import Rulebook.Document.Field
import Rulebook.Json.Reader

/-!
# The journal

Events are recorded as mappings of JSON values, with the name of their logger, their level and,
while a request is under way, the identities of the request and of the role.  Events below the level
of the journal are dropped.
-/

namespace Rulebook

/-- The levels of events. -/
inductive EventLevel where
  | debug
  | info
  | warning
  deriving DecidableEq, Repr

namespace EventLevel

/-- The name of a level. -/
def name : EventLevel → String
  | debug => "debug"
  | info => "info"
  | warning => "warning"

/-- How grave events of a level are. -/
def gravity : EventLevel → Nat
  | debug => 10
  | info => 20
  | warning => 30

end EventLevel

/-- An event. -/
structure Event where
  logger : String
  level : EventLevel
  event : String
  fields : List (String × Value) := []
  deriving Repr

/-- The events recorded so far, and what is recorded from now on. -/
structure Journal where
  /-- The gravity from which on events are recorded. -/
  threshold : Nat
  requestId : Option String := none
  roleId : Option String := none
  entries : List Value := []
  deriving Repr

namespace Journal

/-- The gravities that names of levels stand for. -/
def thresholds : List (String × Nat) :=
  [("CRITICAL", 50), ("FATAL", 50), ("ERROR", 40), ("WARNING", 30), ("WARN", 30), ("INFO", 20),
   ("DEBUG", 10), ("NOTSET", 0)]

/-- The gravity that the name of a level stands for, in any letter case. -/
def thresholdOf (level : String) : Except Fault Nat :=
  let name := Text.upper level
  (thresholds.lookup name).elim (.error (.unknownLevel name)) .ok

mutual

/-- A value as it is recorded: sequences as lists, and in its literal form what JSON lacks. -/
def recorded : Value → Except Fault Value
  | .int value => if Numeral.isTooLong value then .error .integerTooLong else .ok (.int value)
  | .list items | .tuple items => (recordedItems items).map .list
  | .mapping entries => (recordedEntries entries).map .mapping
  | .absent => (Value.literal .absent).map .text
  | .date value => (Value.literal (.date value)).map .text
  | .dateTime value => (Value.literal (.dateTime value)).map .text
  | .bytes value => (Value.literal (.bytes value)).map .text
  | value => .ok value

/-- The elements of a sequence as they are recorded. -/
def recordedItems : List Value → Except Fault (List Value)
  | [] => .ok []
  | item :: items => do
      let first ← recorded item
      let rest ← recordedItems items
      return first :: rest

/-- The entries of a mapping as they are recorded. -/
def recordedEntries : List (String × Value) → Except Fault (List (String × Value))
  | [] => .ok []
  | (key, value) :: entries => do
      let first ← recorded value
      let rest ← recordedEntries entries
      return (key, first) :: rest

end

/-- A field of an event; bytes are taken as text, failures and all. -/
def decoded : Value → Value
  | .bytes value => .text (Text.utf8Replacing value)
  | value => value

/-- Adds the name of the service, which is the name of the logger up to its first dot. -/
def withService (entries : List (String × Value)) : List (String × Value) :=
  match entries.lookup "logger" with
  | some (.text logger) =>
      let service := logger.toList.takeWhile (· != '.')
      if service.length < logger.length then
        Json.setEntry "service" (.text (String.ofList service)) entries
      else entries
  | _ => entries

/-- Sets an entry when there is a value that is not empty. -/
def setGiven (key : String) (value : Option String) (entries : List (String × Value)) :
    List (String × Value) :=
  match value with
  | some value => if value.isEmpty then entries else Json.setEntry key (.text value) entries
  | none => entries

/-- Adds the identities of the request and the role under way. -/
def withContext (journal : Journal) (entries : List (String × Value)) : List (String × Value) :=
  setGiven "role_id" journal.roleId (setGiven "request_id" journal.requestId entries)

/-- The entries of an event. -/
def entriesOf (journal : Journal) (event : Event) : List (String × Value) :=
  let named := if event.logger.isEmpty then "root" else event.logger
  let fields := event.fields.map fun (key, value) => (key, decoded value)
  journal.withContext <| withService <|
    Json.setEntry "level" (.text event.level.name) <|
    Json.setEntry "logger" (.text named) <|
    Json.setEntry "event" (.text event.event) fields

/-- Records an event. -/
def record (journal : Journal) (event : Event) : Except Fault Journal :=
  if event.level.gravity < journal.threshold then .ok journal
  else do
    let entry ← recorded (.mapping (journal.entriesOf event))
    return { journal with entries := journal.entries ++ [entry] }

/-- Notes the request under way. -/
def setRequest (journal : Journal) (requestId : String) : Journal :=
  { journal with requestId := some requestId }

/-- Notes the role under way; without a role the one of before stays. -/
def setRole (journal : Journal) (roleId : Option String) : Journal :=
  match roleId with
  | some roleId => if roleId.isEmpty then journal else { journal with roleId := some roleId }
  | none => journal

/-- Forgets request and role. -/
def clear (journal : Journal) : Journal :=
  { journal with requestId := none, roleId := none }

end Journal

/-- A computation that records events. -/
abbrev Logged := ExceptT Fault (StateM Journal)

/-- A result without events. -/
def logged {α : Type} (result : Except Fault α) : Logged α :=
  match result with
  | .ok value => pure value
  | .error fault => throw fault

/-- Records an event. -/
def log (event : Event) : Logged Unit := do
  set (← logged ((← get).record event))

end Rulebook
