import Rulebook.Json.Reader
import Rulebook.Rule.Document
import Rulebook.Service.Settings

/-!
# Loading rule documents

A rule document becomes a rule with fresh identities, a node before the nodes below it.  The first
node that cannot be read stops the loading; the rejection tells its location.
-/

namespace Rulebook

namespace RuleNode

/-- The value of a number that may be missing. -/
def optionalNumber (number : Option Int) : Value :=
  number.elim .null .int

/-- The fields of a problem list in the details of a rejection. -/
def issueValue (issue : FieldIssue) : Value :=
  .mapping [("loc", .text issue.field), ("message", .text issue.problem.message)]

/-- The rejection of a node whose fields have problems. -/
def invalidFields (kind : NodeKind) (location : String) (issues : List FieldIssue) : Fault :=
  .document ("invalid " ++ kind.name ++ " rule")
    [("location", .text location), ("errors", .list (issues.map issueValue))]

/-- A rejection of a rule as a rejection of the document that holds it. -/
def atLocation (location : String) : Fault → Fault
  | .rejected { category := .rule, message, details } =>
      .document message (("location", .text location) :: details)
  | fault => fault

/-- The kind and the fields of a node. -/
def readNode (location : String) (data : Value) : Except Fault NodeDocument :=
  match data with
  | .mapping entries =>
      let named := (entries.lookup "kind").getD .null
      match NodeKind.ofValue? named with
      | some kind => (NodeDocument.read kind entries).mapError (invalidFields kind location)
      | none => do
          let shown ← named.literal
          .error (.document ("unknown rule kind " ++ shown) [("location", .text location)])
  | _ => .error (.document "rule node must be an object" [("location", .text location)])

/-- The rejection of a document that is nested too deeply. -/
def tooDeep (location : String) (maxDepth : Int) : Fault :=
  .document "rule document is nested too deeply"
    [("location", .text location), ("max_depth", .int maxDepth)]

/-- The location of a child. -/
def childLocation (location : String) (position : Nat) : String :=
  location ++ ".children[" ++ toString position ++ "]"

/-- The location of a predicate. -/
def predicateLocation (location : String) : String := location ++ ".predicate"

/-- An array rule over a predicate that has been loaded. -/
def arrayOver (id location path : String) (kind : QuantifierKind) (count index : Option Int) :
    RuleNode → Except Fault RuleNode
  | group predicateId logic children =>
      let count := if kind.readsCount then optionalNumber count else .null
      let index := if kind.readsIndex then optionalNumber index else .null
      match kind.make (.text path) count index with
      | .ok quantifier =>
          .ok (array id (.text path) quantifier predicateId logic children)
      | .error fault => .error (atLocation location fault)
  | _ => .error (.document "array predicate must be a group"
      [("location", .text (predicateLocation location))])

/-- Loads children one after the other, the first of which has the given position. -/
def loadChildren (loadChild : (location : String) → Value → Issuing RuleNode)
    (location : String) : (position : Nat) → List Value → Issuing (List RuleNode)
  | _, [] => return []
  | position, child :: rest => do
      let node ← loadChild (childLocation location position) child
      let nodes ← loadChildren loadChild location (position + 1) rest
      return node :: nodes

/-- Loads the node at a location, over at most `depth` levels. -/
def load (maxDepth : Int) : (depth : Nat) → (location : String) → Value → Issuing RuleNode
  | 0, location, _ => throw (tooDeep location maxDepth)
  | depth + 1, location, data => do
      let document ← readNode location data
      let id ← nextId
      match document with
      | .group logic children =>
          let children ← loadChildren (load maxDepth depth) location 0 children
          return .group id logic children
      | .scalar path type operator value value2 =>
          match Condition.make (.text path) type operator value value2 with
          | .ok condition => return .scalar id condition
          | .error fault => throw (atLocation location fault)
      | .array path kind count index predicate =>
          let predicate ← load maxDepth depth (predicateLocation location) predicate
          arrayOver id location path kind count index predicate

/-- Loads a rule document of at most `maxDepth` levels. -/
def ofPortable (maxDepth : Int) (data : Value) : Issuing RuleNode :=
  load maxDepth maxDepth.toNat "$" data

/-- The value that a text of a rule document stands for. -/
def documentOfText (text : String) : Except Fault Value :=
  match Json.read text.toList with
  | .ok value => .ok value
  | .error (.malformed reason remaining) =>
      .error (.document "rule document is not valid JSON"
        [("error", .text (Json.placeText reason text.toList remaining))])
  | .error (.numeralTooLong digits) => .error (.numeralTooLong digits)

/-- Loads the rule document that a text stands for, of as many levels as an environment allows. -/
def ofText (environment : List (String × String)) (text : String) : Issuing RuleNode := do
  let data ← documentOfText text
  let settings ← Settings.make [] environment
  ofPortable settings.maxRuleDepth data

end RuleNode

end Rulebook
