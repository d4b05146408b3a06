import Rulebook.Proofs.Rule.Refusals
import Rulebook.Proofs.Service.Requests

/-!
# Checked policies

A check of rules is answered with the portable form of the policy, or with problems at places of
the document.  It fails to answer only at a kind that cannot be shown, and where the event that
tells its outcome cannot be recorded.
-/

namespace Rulebook

/-! ## Problems of a rejection -/

namespace Issue

/-- The issue of a problem with a field of the node at a place. -/
def ofField (place : String) (issue : FieldIssue) : Issue :=
  { path := some (if issue.field.isEmpty then place else place ++ ("." ++ issue.field))
    message := issue.problem.message }

theorem ofEntry_issueValue (place : String) (issue : FieldIssue) :
    ofEntry (.text place) (RuleNode.issueValue issue) = .ok (ofField place issue) := by
  rw [RuleNode.issueValue, ofEntry, ofField]
  cases empty : issue.field.isEmpty <;>
    simp [List.lookup_cons, Value.isTruthy, Value.plain, Value.plain?, make, Field.optionalText,
      Field.text, Except.map, bind, Except.bind, pure, Except.pure, empty, String.append_assoc]

/-- The details of a rejection at a place make issues, all of them at or below the place. -/
theorem exists_ofDetails (message place : String) {details : List (String × Value)}
    (tells : TellsProblems details) :
    ∃ issues, ofDetails (.text message) (("location", .text place) :: details) = .ok issues ∧
      issues ≠ [] ∧ ∀ issue ∈ issues, ∃ below, issue.path = some (place ++ below) := by
  have here : List.lookup "location" (("location", Value.text place) :: details) =
      some (.text place) := rfl
  have further : List.lookup "errors" (("location", Value.text place) :: details) =
      details.lookup "errors" := rfl
  rw [ofDetails, here, further]
  rcases tells with none | ⟨problems, some, found⟩
  · rw [none]
    refine ⟨[{ path := some place, message }], rfl, List.cons_ne_nil _ _, ?_⟩
    refine List.forall_mem_singleton.mpr ⟨"", ?_⟩
    rw [String.append_empty]
  · rw [found]
    refine ⟨problems.map (ofField place), ?_, by simpa using some, fun issue member => ?_⟩
    · have truthy : (Value.list (problems.map RuleNode.issueValue)).isTruthy = true := by
        simpa [Value.isTruthy] using some
      simp only [Option.getD_some, truthy, if_true]
      refine Except.bind_eq_ok.mpr ⟨problems.map RuleNode.issueValue, rfl, ?_⟩
      rw [Except.mapM_eq_ok, List.forall₂_map_left_iff, List.forall₂_map_right_iff,
        List.forall₂_same]
      exact fun issue _ => ofEntry_issueValue place issue
    · obtain ⟨problem, -, rfl⟩ := List.mem_map.mp member
      rw [ofField]
      split
      · exact ⟨"", by rw [String.append_empty]⟩
      · exact ⟨_, rfl⟩

end Issue

namespace Service

/-! ## Loading a policy -/

/-- A policy that is not loaded is rejected at a place of its document, or has come to a kind that
cannot be shown. -/
theorem refusesBelow_of_policy {settings : Settings} {rules : Value} {fault : Fault}
    (failed : policy settings rules = .error fault) :
    (fault = .integerTooLong ∧ rules.StopsUnshown settings.maxRuleDepth.toNat) ∨
      fault.RefusesBelow "$" := by
  have run : (loadPolicy settings rules).run (.fresh Session.defaultStem) =
      (.error fault, ((loadPolicy settings rules).run (.fresh Session.defaultStem)).2) :=
    Prod.ext failed rfl
  rcases ExceptT.bind_eq_error.mp run with stopped | ⟨node, between, -, checked⟩
  · exact RuleNode.refusesBelow_of_load stopped
  · split at checked
    · cases congrArg Prod.fst checked
    · cases congrArg Prod.fst checked
      exact .inr (Fault.refusesBelow_of_details "$" _ rfl)

theorem policy_of_stopsUnshown {settings : Settings} {rules : Value}
    (stops : rules.StopsUnshown settings.maxRuleDepth.toNat) :
    policy settings rules = .error .integerTooLong := by
  obtain ⟨last, stopped⟩ := RuleNode.load_of_stopsUnshown stops settings.maxRuleDepth "$"
    (.fresh Session.defaultStem)
  exact congrArg Prod.fst (ExceptT.bind_eq_error.mpr (.inl stopped))

/-! ## Checks -/

theorem threshold_entering (requestId : String) (roleId : Option String) (journal : Journal) :
    (entering requestId roleId journal).threshold = journal.threshold := by
  cases roleId with
  | none => rfl
  | some roleId =>
      rw [entering, Journal.setRole]
      split <;> rfl

/-- The event of a policy that a check finds valid. -/
def validEvent (settings : Settings) (node : RuleNode) : Event :=
  { logger := loggerName settings, level := .info, event := "Role rules valid"
    fields := [("node_count", .int node.nodes.length)] }

/-- The event of a document that a check finds invalid. -/
def invalidEvent (settings : Settings) (message : String) (details : List (String × Value)) :
    Event :=
  rejectionEvent settings "Role rules invalid" { category := .document, message, details }

/-- A check records the outcome of loading the policy and answers with it. -/
theorem run_validate_eq_ok {settings : Settings} {entries : List (String × Value)}
    {requestId : String} {roleId : Option String} {journal later : Journal}
    {answer : ValidateAnswer} :
    (validate settings (.mapping entries) requestId roleId).run journal = (.ok answer, later) ↔
      ∃ between, between.clear = later ∧
        ((∃ node, policy settings (.mapping entries) = .ok node ∧
            answer = .valid node.portable ∧
              (log (validEvent settings node)).run (entering requestId roleId journal) =
                (.ok (), between)) ∨
          ∃ message details issues,
            policy settings (.mapping entries) = .error (.document message details) ∧
              answer = .invalid issues ∧ Issue.ofDetails (.text message) details = .ok issues ∧
                (log (invalidEvent settings message details)).run
                  (entering requestId roleId journal) = (.ok (), between)) := by
  constructor
  · intro done
    obtain ⟨accepted, _, given, requested⟩ := ExceptT.bind_eq_ok.mp done
    obtain ⟨same, rfl⟩ := run_logged_iff.mp given
    cases same
    obtain ⟨between, checked, cleared⟩ := run_during_iff.mp requested
    refine ⟨between, cleared, ?_⟩
    split at checked
    · rename_i node loaded
      obtain ⟨_, _, recorded, answered⟩ := ExceptT.bind_eq_ok.mp checked
      cases answered
      exact .inl ⟨node, loaded, rfl, recorded⟩
    · rename_i message details rejected
      obtain ⟨_, _, recorded, answered⟩ := ExceptT.bind_eq_ok.mp checked
      obtain ⟨issues, _, told, finished⟩ := ExceptT.bind_eq_ok.mp answered
      obtain ⟨made, rfl⟩ := run_logged_iff.mp told
      cases finished
      exact .inr ⟨message, details, issues, rejected, rfl, made, recorded⟩
    · cases checked
  · rintro ⟨between, cleared, outcome⟩
    refine ExceptT.bind_eq_ok.mpr ⟨.mapping entries, journal, rfl, ?_⟩
    refine run_during_iff.mpr ⟨between, ?_, cleared⟩
    rcases outcome with ⟨node, loaded, rfl, recorded⟩ |
      ⟨message, details, issues, rejected, rfl, told, recorded⟩
    · rw [loaded]
      exact ExceptT.bind_eq_ok.mpr ⟨(), between, recorded, rfl⟩
    · rw [rejected]
      refine ExceptT.bind_eq_ok.mpr ⟨(), between, recorded, ?_⟩
      exact ExceptT.bind_eq_ok.mpr ⟨issues, between, run_logged_iff.mpr ⟨told, rfl⟩, rfl⟩

/-- Whether an answer tells what loading the policy has come to: the portable form of the policy,
or problems at places of the document. -/
def IsVerdict (outcome : Except Fault RuleNode) : ValidateAnswer → Prop
  | .valid canonical => ∃ node, outcome = .ok node ∧ canonical = node.portable
  | .invalid issues => (∀ node, outcome ≠ .ok node) ∧ issues ≠ [] ∧
      ∀ issue ∈ issues, ∃ place, issue.path = some ("$" ++ place)

/-- Whether the event of an outcome can be recorded by a journal: the number of nodes, or the
details of the rejection. -/
def IsRecordable (threshold : Nat) : Except Fault RuleNode → Prop
  | .ok node => threshold ≤ EventLevel.info.gravity →
      Numeral.isTooLong node.nodes.length = false
  | .error (.rejected rejection) => threshold ≤ EventLevel.warning.gravity →
      Value.entriesAreShowable rejection.details = true
  | .error _ => True

theorem exists_run_log_validEvent_iff (settings : Settings) (node : RuleNode)
    (journal : Journal) :
    (∃ later, (log (validEvent settings node)).run journal = (.ok (), later)) ↔
      IsRecordable journal.threshold (.ok node) := by
  have own : ∀ field ∈ (validEvent settings node).fields, field.1 ∉ Journal.ownKeys := by
    simp [validEvent, Journal.ownKeys]
  rw [Journal.exists_run_log_iff own]
  simp [validEvent, IsRecordable, Value.entriesAreShowable, Value.isShowable]

theorem exists_run_log_rejectionEvent_iff (settings : Settings) (event message : String)
    (details : List (String × Value)) (journal : Journal) :
    (∃ later, (log (rejectionEvent settings event
        { category := .document, message, details })).run journal = (.ok (), later)) ↔
      IsRecordable journal.threshold (.error (.document message details)) := by
  have own : ∀ field ∈ (rejectionEvent settings event
      { category := .document, message, details }).fields, field.1 ∉ Journal.ownKeys := by
    simp [rejectionEvent, Journal.ownKeys]
  rw [Journal.exists_run_log_iff own]
  simp [rejectionEvent, IsRecordable, Fault.document, Value.entriesAreShowable,
    Value.isShowable]

/-- What a check answers is what loading the policy has come to. -/
theorem isVerdict_of_run_validate {settings : Settings} {entries : List (String × Value)}
    {requestId : String} {roleId : Option String} {journal later : Journal}
    {answer : ValidateAnswer}
    (done : (validate settings (.mapping entries) requestId roleId).run journal =
      (.ok answer, later)) :
    IsVerdict (policy settings (.mapping entries)) answer := by
  obtain ⟨between, -, ⟨node, loaded, rfl, -⟩ | ⟨message, details, issues, rejected, rfl, told, -⟩⟩ :=
    run_validate_eq_ok.mp done
  · exact ⟨node, loaded, rfl⟩
  · rcases refusesBelow_of_policy rejected with ⟨impossible, -⟩ |
      ⟨_, place, _, same, tells⟩
    · cases impossible
    · cases same
      obtain ⟨others, again, some, places⟩ := Issue.exists_ofDetails message ("$" ++ place) tells
      cases told.symm.trans again
      refine ⟨fun node loaded => ?_, some, fun issue member => ?_⟩
      · rw [rejected] at loaded
        cases loaded
      · obtain ⟨below, found⟩ := places issue member
        exact ⟨place ++ below, by rw [found, String.append_assoc]⟩

/-- A check is answered exactly when loading does not come to a kind that cannot be shown and the
event of its outcome can be recorded. -/
theorem exists_run_validate_iff (settings : Settings) (entries : List (String × Value))
    (requestId : String) (roleId : Option String) (journal : Journal) :
    (∃ answer later, (validate settings (.mapping entries) requestId roleId).run journal =
        (.ok answer, later)) ↔
      ¬ (Value.mapping entries).StopsUnshown settings.maxRuleDepth.toNat ∧
        IsRecordable journal.threshold (policy settings (.mapping entries)) := by
  rw [← threshold_entering requestId roleId journal]
  constructor
  · rintro ⟨answer, later, done⟩
    obtain ⟨between, -, outcome⟩ := run_validate_eq_ok.mp done
    refine ⟨fun stops => ?_, ?_⟩
    · rw [policy_of_stopsUnshown stops] at outcome
      rcases outcome with ⟨_, impossible, -⟩ | ⟨_, _, _, impossible, -⟩
      · cases impossible
      · cases impossible
    · rcases outcome with ⟨node, loaded, -, recorded⟩ | ⟨message, details, _, rejected, -, -, recorded⟩
      · rw [loaded]
        exact (exists_run_log_validEvent_iff settings node _).mp ⟨between, recorded⟩
      · rw [rejected]
        exact (exists_run_log_rejectionEvent_iff settings _ message details _).mp
          ⟨between, recorded⟩
  · rintro ⟨shown, recordable⟩
    cases outcome : policy settings (.mapping entries) with
    | ok node =>
        rw [outcome] at recordable
        obtain ⟨between, recorded⟩ :=
          (exists_run_log_validEvent_iff settings node _).mpr recordable
        exact ⟨_, _, run_validate_eq_ok.mpr
          ⟨between, rfl, .inl ⟨node, outcome, rfl, recorded⟩⟩⟩
    | error fault =>
        rcases refusesBelow_of_policy outcome with ⟨-, stops⟩ |
          ⟨message, place, details, rfl, tells⟩
        · exact (shown stops).elim
        · rw [outcome] at recordable
          obtain ⟨between, recorded⟩ :=
            (exists_run_log_rejectionEvent_iff settings _ message _ _).mpr recordable
          obtain ⟨issues, told, -⟩ := Issue.exists_ofDetails message ("$" ++ place) tells
          exact ⟨_, _, run_validate_eq_ok.mpr
            ⟨between, rfl, .inr ⟨message, _, issues, outcome, rfl, told, recorded⟩⟩⟩

/-- How loading and checking fail.  A value is loaded or rejected unless loading comes to a kind
that cannot be shown.  A text is loaded or rejected unless an integer in it has too many digits, or
it is JSON and the environment makes no settings.  A check is answered, with the portable form of
the policy or with problems at places of the document, unless loading comes to a kind that cannot be
shown or the event of the outcome cannot be recorded. -/
theorem fails_as_declared_iff (maxDepth : Int) (data : Value) (session : Session)
    (environment : List (String × String)) (text : String) (settings : Settings)
    (entries : List (String × Value)) (requestId : String) (roleId : Option String)
    (journal : Journal) :
    (IsDeclared ((RuleNode.ofPortable maxDepth data).run session).1 ↔
      ¬ data.StopsUnshown maxDepth.toNat) ∧
    (IsDeclared ((RuleNode.ofText environment text).run session).1 ↔
      (∀ digits, Json.read text.toList ≠ .error (.numeralTooLong digits)) ∧
        ∀ value, Json.read text.toList = .ok value →
          ∃ made, Settings.make [] environment = .ok made) ∧
    ((∃ answer later, (validate settings (.mapping entries) requestId roleId).run journal =
        (.ok answer, later)) ↔
      ¬ (Value.mapping entries).StopsUnshown settings.maxRuleDepth.toNat ∧
        IsRecordable journal.threshold (policy settings (.mapping entries))) ∧
    ∀ answer later, (validate settings (.mapping entries) requestId roleId).run journal =
        (.ok answer, later) →
      IsVerdict (policy settings (.mapping entries)) answer := by
  refine ⟨RuleNode.isDeclared_ofPortable_iff maxDepth data session,
    RuleNode.isDeclared_ofText_iff environment text session,
    exists_run_validate_iff settings entries requestId roleId journal, ?_⟩
  intro answer later done
  exact isVerdict_of_run_validate done

/-- The entries of a node whose kind is an integer of one digit too many. -/
def unshownEntries : List (String × Value) :=
  [("kind", .int (Nat.pow 10 Numeral.digitLimit : Nat))]

/-- The text of an integer of one digit too many. -/
def unreadText : String :=
  String.ofList (List.replicate (Numeral.digitLimit + 1) '1')

theorem read_replicate_one {count : Nat} (many : Numeral.digitLimit < count) :
    Json.read (List.replicate count '1') = .error (.numeralTooLong count) := by
  have all : ∀ c ∈ List.replicate count '1', c.isDigit = true := by
    intro c member
    rw [List.eq_of_mem_replicate member]
    rfl
  have first : (List.replicate count '1').head? ≠ some '0' := by
    cases count <;> simp [List.replicate_succ]
  have failed := Json.read_of_isDigit all first (by rwa [List.length_replicate])
  rwa [List.length_replicate] at failed

theorem stopsUnshown_unshownEntries {depth : Nat} (positive : 0 < depth) :
    (Value.mapping unshownEntries).StopsUnshown depth := by
  obtain ⟨below, rfl⟩ := Nat.exists_eq_add_one.mpr positive
  refine .kind ?_
  have named : unshownEntries.lookup "kind" =
      some (.int (Nat.pow 10 Numeral.digitLimit : Nat)) := rfl
  rw [named, Option.getD_some, Value.isShowable, Numeral.isTooLong, Int.natAbs_natCast]
  simp

/-- Neither every value, nor every text, is loaded or rejected, and not every check is answered. -/
theorem not_always_fails_as_declared :
    (¬ ∀ maxDepth data session,
      IsDeclared ((RuleNode.ofPortable maxDepth data).run session).1) ∧
    (¬ ∀ text session, IsDeclared ((RuleNode.ofText [] text).run session).1) ∧
    ¬ ∀ settings entries requestId roleId journal, ∃ answer later,
      (validate settings (.mapping entries) requestId roleId).run journal =
        (.ok answer, later) := by
  simp only [not_forall]
  refine ⟨⟨32, .mapping unshownEntries, .fresh Session.defaultStem, ?_⟩,
    ⟨unreadText, .fresh Session.defaultStem, ?_⟩,
    ⟨{}, unshownEntries, "", none, { threshold := EventLevel.info.gravity }, ?_⟩⟩
  · rw [RuleNode.isDeclared_ofPortable_iff, not_not]
    exact stopsUnshown_unshownEntries (by decide)
  · rw [RuleNode.isDeclared_ofText_iff]
    rintro ⟨readable, -⟩
    refine readable (Numeral.digitLimit + 1) ?_
    rw [unreadText, String.toList_ofList]
    exact read_replicate_one (Nat.lt_succ_self _)
  · rw [exists_run_validate_iff]
    rintro ⟨shown, -⟩
    exact shown (stopsUnshown_unshownEntries (by decide))

end Service

end Rulebook
