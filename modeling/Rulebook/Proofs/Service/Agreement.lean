import Mathlib.Data.List.Nodup
import Rulebook.Proofs.Evaluation.Faults
import Rulebook.Proofs.Service.Validation

/-!
# Agreement of requests

An evaluation, a check and a batch each load the policy and go on by themselves.  They come to the
same decisions: what a check finds valid is what evaluations accept, and a batch splits its
documents by the verdicts of the single evaluations.
-/

namespace Rulebook

/-- What stops an evaluation is not declared. -/
theorem Fault.StopsEvaluation.not_isDeclared {α : Type} {fault : Fault}
    (stops : fault.StopsEvaluation) : ¬ IsDeclared (.error fault : Except Fault α) := by
  cases fault with
  | rejected rejection => exact stops.elim
  | _ => exact id

/-! ## Failures of recorded computations -/

/-- What stops the recording of an event stops evaluations too. -/
theorem Journal.stopsEvaluation_of_run_log {event : Event} {fault : Fault} {journal later : Journal}
    (stopped : (log event).run journal = (.error fault, later)) : fault.StopsEvaluation := by
  obtain ⟨rfl, -⟩ := run_log_eq_error stopped
  trivial

namespace Service

variable {settings : Settings}

/-- A request that is reported as rejected has been rejected, and its rejection recorded. -/
theorem exists_run_of_reporting {α : Type} {request : Logged α} {fault : Fault}
    {journal last : Journal}
    (declared : IsDeclared (.error fault : Except Fault α))
    (stopped : (reporting settings request).run journal = (.error fault, last)) :
    ∃ message details between, fault = .document message details ∧
      request.run journal = (.error fault, between) ∧
        (log (rejectionEvent settings "Rejected rule document"
          { category := .document, message, details })).run between = (.ok (), last) := by
  simp only [reporting, tryCatch, tryCatchThe, MonadExceptOf.tryCatch, ExceptT.tryCatch,
    ExceptT.run, ExceptT.mk, bind, StateT.bind] at stopped ⊢
  generalize request journal = ran at stopped ⊢
  rcases ran with ⟨cause | value, between⟩
  · dsimp only at stopped
    split at stopped
    · rename_i message details
      -- A rejection that cannot be recorded is not told as one.
      rcases ExceptT.bind_eq_error.mp stopped with unrecorded | ⟨_, _, recorded, thrown⟩
      · exact ((Journal.stopsEvaluation_of_run_log unrecorded).not_isDeclared declared).elim
      · cases thrown
        exact ⟨message, details, between, rfl, rfl, recorded⟩
    · rename_i other
      cases stopped
      cases fault with
      | rejected rejection =>
          obtain ⟨category, message, details⟩ := rejection
          cases declared
          exact (other message details rfl).elim
      | _ => exact declared.elim
  · cases stopped

theorem stopsEvaluation_of_run_evaluateLogged {node : RuleNode} {payload : Value} {fault : Fault}
    {journal later : Journal}
    (stopped : (node.evaluateLogged settings payload).run journal = (.error fault, later)) :
    fault.StopsEvaluation := by
  rcases ExceptT.bind_eq_error.mp stopped with unevaluated | ⟨trace, _, -, rest⟩
  · exact node.stopsSoundly_evaluate payload fault (run_logged_iff.mp unevaluated).1
  · rcases ExceptT.bind_eq_error.mp rest with unrecorded | ⟨_, _, -, impossible⟩
    · exact Journal.stopsEvaluation_of_run_log unrecorded
    · cases impossible

/-- A policy whose evaluation is rejected is not loaded, and its rejection can be recorded. -/
theorem policy_of_run_evaluate {entries : List (String × Value)} {payload : Value}
    {requestId : String} {roleId : Option String} {journal later : Journal} {fault : Fault}
    (declared : IsDeclared (.error fault : Except Fault EvaluateAnswer))
    (stopped : (evaluate settings (.mapping entries) payload requestId roleId).run journal =
      (.error fault, later)) :
    ∃ message details,
      policy settings (.mapping entries) = .error (.document message details) ∧
        IsRecordable journal.threshold (.error (.document message details)) := by
  rcases ExceptT.bind_eq_error.mp stopped with refused | ⟨rules, _, given, requested⟩
  · cases (run_logged_iff.mp refused).1
  · obtain ⟨same, rfl⟩ := run_logged_iff.mp given
    cases same
    obtain ⟨between, reported, -⟩ := run_during_iff.mp requested
    obtain ⟨message, details, last, rfl, rejected, recorded⟩ :=
      exists_run_of_reporting declared reported
    rcases ExceptT.bind_eq_error.mp rejected with unloaded | ⟨node, _, -, rest⟩
    · obtain ⟨failed, rfl⟩ := run_logged_iff.mp unloaded
      refine ⟨message, details, failed, ?_⟩
      rw [← threshold_entering requestId roleId journal]
      exact (exists_run_log_rejectionEvent_iff settings _ message details _).mp ⟨_, recorded⟩
    · -- Nothing behind the loading of the policy rejects.
      rcases ExceptT.bind_eq_error.mp rest with unevaluated | ⟨trace, _, -, rest⟩
      · exact ((stopsEvaluation_of_run_evaluateLogged unevaluated).not_isDeclared declared).elim
      · rcases ExceptT.bind_eq_error.mp rest with unrecorded | ⟨_, _, -, impossible⟩
        · exact ((Journal.stopsEvaluation_of_run_log unrecorded).not_isDeclared declared).elim
        · cases impossible

/-! ## Outcomes -/

/-- A request to a service, whose journal has the level that the service has set. -/
structure Request (threshold : Nat) where
  id : String
  roleId : Option String
  journal : Journal
  level : journal.threshold = threshold

namespace Request

variable {threshold : Nat} (request : Request threshold) (settings : Settings)

/-- What an evaluation comes to. -/
def evaluated (rules payload : Value) : Except Fault EvaluateAnswer :=
  ((evaluate settings rules payload request.id request.roleId).run request.journal).1

/-- What a check comes to. -/
def validated (rules : Value) : Except Fault ValidateAnswer :=
  ((validate settings rules request.id request.roleId).run request.journal).1

/-- What a batch comes to. -/
def batched (rules payloads : Value) : Except Fault Partition :=
  ((evaluateMany settings rules payloads request.id request.roleId).run request.journal).1

variable {request settings} {entries : List (String × Value)}

theorem evaluated_eq_ok {rules payload : Value} {answer : EvaluateAnswer} :
    request.evaluated settings rules payload = .ok answer ↔
      ∃ node, policy settings rules = .ok node ∧
        node.evaluate settings payload = .ok answer.trace ∧ answer.canonical = node.portable := by
  rw [← exists_run_evaluate_iff]
  exact ⟨fun done => ⟨_, Prod.ext done rfl⟩, fun ⟨_, done⟩ => congrArg Prod.fst done⟩

/-- An evaluation that does not stop otherwise is accepted when the policy is loaded. -/
theorem exists_evaluated {payload : Value} {node : RuleNode}
    (declared : IsDeclared (request.evaluated settings (.mapping entries) payload))
    (loaded : policy settings (.mapping entries) = .ok node) :
    ∃ answer, request.evaluated settings (.mapping entries) payload = .ok answer := by
  cases outcome : request.evaluated settings (.mapping entries) payload with
  | ok answer => exact ⟨answer, rfl⟩
  | error fault =>
      rw [outcome] at declared
      obtain ⟨message, details, failed, -⟩ := policy_of_run_evaluate declared (Prod.ext outcome rfl)
      rw [loaded] at failed
      cases failed

theorem validated_eq_valid_iff
    (counted : ∀ node, policy settings (.mapping entries) = .ok node →
      Numeral.isTooLong node.nodes.length = false) {canonical : Value} :
    request.validated settings (.mapping entries) = .ok (.valid canonical) ↔
      ∃ node, policy settings (.mapping entries) = .ok node ∧ canonical = node.portable := by
  constructor
  · intro done
    exact isVerdict_of_run_validate (Prod.ext done rfl)
  · rintro ⟨node, loaded, rfl⟩
    obtain ⟨between, recorded⟩ := (exists_run_log_validEvent_iff settings node _).mpr
      fun _ => counted node loaded
    exact congrArg Prod.fst
      (run_validate_eq_ok.mpr ⟨between, rfl, .inl ⟨node, loaded, rfl, recorded⟩⟩)

/-- A check finds problems where the rejection of the policy can be recorded. -/
theorem exists_validated_invalid {message : String} {details : List (String × Value)}
    (failed : policy settings (.mapping entries) = .error (.document message details))
    (recordable : IsRecordable threshold (.error (.document message details))) :
    ∃ issues, request.validated settings (.mapping entries) = .ok (.invalid issues) := by
  have shown : ¬ (Value.mapping entries).StopsUnshown settings.maxRuleDepth.toNat := by
    intro stops
    rw [policy_of_stopsUnshown stops] at failed
    cases failed
  rw [← request.level, ← failed] at recordable
  obtain ⟨answer, later, done⟩ := (exists_run_validate_iff settings entries request.id
    request.roleId request.journal).mpr ⟨shown, recordable⟩
  have verdict := isVerdict_of_run_validate done
  cases answer with
  | valid canonical =>
      obtain ⟨node, loaded, -⟩ := verdict
      rw [failed] at loaded
      cases loaded
  | invalid issues => exact ⟨issues, congrArg Prod.fst done⟩

end Request

end Service

/-! ## Batches -/

/-- Whether two lists split keys: each key is in one of them, and each list has its keys in their
order. -/
structure Partition.Splits (partition : Partition) (keys : List String) : Prop where
  nodup : (partition.matched ++ partition.unmatched).Nodup
  perm : (partition.matched ++ partition.unmatched).Perm keys
  matched : partition.matched.Sublist keys
  unmatched : partition.unmatched.Sublist keys

namespace Partition

/-- The keys of the documents that pass a test and of those that do not. -/
def ofTest (test : Value → Bool) (documents : List (String × Value)) : Partition where
  matched := (documents.filter fun document => test document.2).map Prod.fst
  unmatched := (documents.filter fun document => !test document.2).map Prod.fst

variable {test : Value → Bool} {documents : List (String × Value)}
  (distinct : (documents.map Prod.fst).Nodup)

include distinct

theorem splits_ofTest : (ofTest test documents).Splits (documents.map Prod.fst) := by
  have perm : ((ofTest test documents).matched ++ (ofTest test documents).unmatched).Perm
      (documents.map Prod.fst) := by
    rw [ofTest, ← List.map_append]
    exact (List.filter_append_perm _ documents).map Prod.fst
  exact ⟨perm.nodup_iff.mpr distinct, perm, List.filter_sublist.map _, List.filter_sublist.map _⟩

theorem mem_matched_ofTest {document : String × Value} (member : document ∈ documents) :
    document.1 ∈ (ofTest test documents).matched ↔ test document.2 = true := by
  constructor
  · intro matched
    obtain ⟨other, passes, same⟩ := List.mem_map.mp matched
    obtain ⟨among, passes⟩ := List.mem_filter.mp passes
    rwa [← List.inj_on_of_nodup_map distinct among member same]
  · exact fun passes => List.mem_map_of_mem (List.mem_filter.mpr ⟨member, passes⟩)

end Partition

namespace RuleNode

/-- The verdict of a rule on a document that it can be evaluated on. -/
def verdict (node : RuleNode) (settings : Settings) (document : Value) : Bool :=
  (node.evaluate settings document).toOption.any (·.result)

theorem verdict_of_evaluate {node : RuleNode} {settings : Settings} {document : Value}
    {trace : Trace} (evaluated : node.evaluate settings document = .ok trace) :
    node.verdict settings document = trace.result := by
  rw [verdict, evaluated]
  rfl

/-- A batch of documents that can all be evaluated is split by their verdicts. -/
theorem partition_eq_ofTest {settings : Settings} {node : RuleNode}
    {documents : List (String × Value)}
    (each : ∀ document ∈ documents, ∃ trace, node.evaluate settings document.2 = .ok trace) :
    node.partition settings documents = .ok (.ofTest (node.verdict settings) documents) := by
  induction documents with
  | nil => rfl
  | cons document documents ih =>
      obtain ⟨⟨trace, evaluated⟩, later⟩ := List.forall_mem_cons.mp each
      have found := verdict_of_evaluate evaluated
      rw [partition, evaluated, ih later]
      change Except.ok (if trace.result then _ else _) = _
      rw [← found, Partition.ofTest, List.filter_cons, List.filter_cons]
      cases node.verdict settings document.2 <;> rfl

end RuleNode

namespace Service

/-- A batch of documents that can all be evaluated is answered. -/
theorem Request.batched_eq_ofTest {threshold : Nat} {batch : Request threshold}
    {settings : Settings} {rules : Value} {documents : List (String × Value)} {node : RuleNode}
    (loaded : policy settings rules = .ok node)
    (each : ∀ document ∈ documents, ∃ trace, node.evaluate settings document.2 = .ok trace)
    (counted : Numeral.isTooLong documents.length = false) :
    batch.batched settings rules (.mapping documents) =
      .ok (.ofTest (node.verdict settings) documents) := by
  have few : (Partition.ofTest (node.verdict settings) documents).matched.length ≤
      documents.length := by
    rw [Partition.ofTest, List.length_map]
    exact List.length_filter_le _ _
  have short := Numeral.isTooLong_of_le few counted
  obtain ⟨later, recorded⟩ := Journal.exists_run_log
    { logger := engineLogger, level := .info, event := "Batch evaluation completed"
      fields := [("node_id", .text node.id), ("total", .int documents.length),
        ("matched", .int (Partition.ofTest (node.verdict settings) documents).matched.length)] }
    (by simp [Journal.ownKeys])
    (by simp [Value.entriesAreShowable, Value.isShowable, counted, short])
    (entering batch.id batch.roleId batch.journal)
  refine congrArg Prod.fst (ExceptT.bind_eq_ok.mpr ⟨documents, batch.journal, rfl, ?_⟩ :
    (evaluateMany settings rules (.mapping documents) batch.id batch.roleId).run batch.journal =
      (.ok _, later.clear))
  refine run_during_iff.mpr ⟨later, run_reporting_eq_ok.mpr ?_, rfl⟩
  refine ExceptT.bind_eq_ok.mpr ⟨node, _, run_logged_iff.mpr ⟨loaded, rfl⟩, ?_⟩
  refine ExceptT.bind_eq_ok.mpr
    ⟨_, _, run_logged_iff.mpr ⟨RuleNode.partition_eq_ofTest each, rfl⟩, ?_⟩
  exact ExceptT.bind_eq_ok.mpr ⟨(), later, recorded, rfl⟩

namespace Request

variable {threshold : Nat} {single check batch : Request threshold} {settings : Settings}
  {entries : List (String × Value)}
  (counted : ∀ node, policy settings (.mapping entries) = .ok node →
    Numeral.isTooLong node.nodes.length = false)

include counted

/-- A check and an evaluation find the same of a policy. -/
theorem validated_iff_evaluated {payload : Value}
    (declared : IsDeclared (single.evaluated settings (.mapping entries) payload)) :
    (∀ canonical, check.validated settings (.mapping entries) = .ok (.valid canonical) ↔
      ∃ answer, single.evaluated settings (.mapping entries) payload = .ok answer ∧
        answer.canonical = canonical) ∧
    ((∃ issues, check.validated settings (.mapping entries) = .ok (.invalid issues)) ↔
      ∃ fault, single.evaluated settings (.mapping entries) payload = .error fault) := by
  cases outcome : single.evaluated settings (.mapping entries) payload with
  | ok answer =>
      obtain ⟨node, loaded, -, same⟩ := evaluated_eq_ok.mp outcome
      have valid : check.validated settings (.mapping entries) = .ok (.valid node.portable) :=
        (validated_eq_valid_iff counted).mpr ⟨node, loaded, rfl⟩
      rw [valid, ← same]
      simp
  | error fault =>
      rw [outcome] at declared
      obtain ⟨message, details, failed, recordable⟩ :=
        policy_of_run_evaluate declared (Prod.ext outcome rfl)
      rw [single.level] at recordable
      obtain ⟨issues, invalid⟩ : ∃ issues, check.validated settings (.mapping entries) =
          .ok (.invalid issues) := exists_validated_invalid failed recordable
      rw [invalid]
      simp

/-- A batch finds of each document what its evaluation finds. -/
theorem exists_batched {documents : List (String × Value)}
    (distinct : (documents.map Prod.fst).Nodup) (few : Numeral.isTooLong documents.length = false)
    (declared : ∀ document ∈ documents,
      IsDeclared (single.evaluated settings (.mapping entries) document.2))
    (valid : ∃ canonical, check.validated settings (.mapping entries) = .ok (.valid canonical)) :
    ∃ partition, batch.batched settings (.mapping entries) (.mapping documents) = .ok partition ∧
      partition.Splits (documents.map Prod.fst) ∧
      ∀ document ∈ documents, ∃ answer,
        single.evaluated settings (.mapping entries) document.2 = .ok answer ∧
          (document.1 ∈ partition.matched ↔ answer.trace.result = true) := by
  obtain ⟨canonical, valid⟩ := valid
  obtain ⟨node, loaded, -⟩ := (validated_eq_valid_iff counted).mp valid
  have accepted (document : String × Value) (member : document ∈ documents) :
      ∃ answer, single.evaluated settings (.mapping entries) document.2 = .ok answer ∧
        node.evaluate settings document.2 = .ok answer.trace := by
    obtain ⟨answer, outcome⟩ := exists_evaluated (declared document member) loaded
    obtain ⟨other, again, evaluated, -⟩ := evaluated_eq_ok.mp outcome
    cases loaded.symm.trans again
    exact ⟨answer, outcome, evaluated⟩
  refine ⟨_, batched_eq_ofTest loaded (fun document member => ?_) few,
    Partition.splits_ofTest distinct, fun document member => ?_⟩
  · obtain ⟨answer, -, evaluated⟩ := accepted document member
    exact ⟨answer.trace, evaluated⟩
  · obtain ⟨answer, outcome, evaluated⟩ := accepted document member
    refine ⟨answer, outcome, ?_⟩
    rw [Partition.mem_matched_ofTest distinct member, RuleNode.verdict_of_evaluate evaluated]

end Request

/-- The ways into the service take the same decision.  A policy is found valid exactly when an
evaluation accepts it, with the same canonical form, and found invalid exactly when an evaluation
does not, for every document whose evaluation is accepted or rejected at all.  A batch of such
documents under a valid policy is split by the verdicts of their evaluations, each for itself.
The counts of nodes and documents are recorded, so they have to be numbers that can be written. -/
theorem requests_agree (settings : Settings) (entries : List (String × Value)) {threshold : Nat}
    (single check batch : Request threshold)
    (counted : ∀ node, policy settings (.mapping entries) = .ok node →
      Numeral.isTooLong node.nodes.length = false) :
    (∀ payload, IsDeclared (single.evaluated settings (.mapping entries) payload) →
      (∀ canonical, check.validated settings (.mapping entries) = .ok (.valid canonical) ↔
        ∃ answer, single.evaluated settings (.mapping entries) payload = .ok answer ∧
          answer.canonical = canonical) ∧
      ((∃ issues, check.validated settings (.mapping entries) = .ok (.invalid issues)) ↔
        ∃ fault, single.evaluated settings (.mapping entries) payload = .error fault)) ∧
    ∀ documents : List (String × Value), (documents.map Prod.fst).Nodup →
      Numeral.isTooLong documents.length = false →
      (∀ document ∈ documents,
        IsDeclared (single.evaluated settings (.mapping entries) document.2)) →
      (∃ canonical, check.validated settings (.mapping entries) = .ok (.valid canonical)) →
        ∃ partition, batch.batched settings (.mapping entries) (.mapping documents) =
            .ok partition ∧
          partition.Splits (documents.map Prod.fst) ∧
          ∀ document ∈ documents, ∃ answer,
            single.evaluated settings (.mapping entries) document.2 = .ok answer ∧
              (document.1 ∈ partition.matched ↔ answer.trace.result = true) :=
  ⟨fun _ declared => Request.validated_iff_evaluated counted declared,
    fun _ distinct few declared valid =>
      Request.exists_batched counted distinct few declared valid⟩

/-- A policy in the manner of older documents: a wallet of more than 1000, or a campus in Lyon. -/
def campusEntries : List (String × Value) :=
  [("kind", .text "group"), ("logic", .text "or"), ("rules", .list
    [.mapping [("kind", .text "scalar"), ("path", .text "wallet"), ("valueType", .text "number"),
        ("op", .text "gt"), ("value", .int 1000)],
      .mapping [("kind", .text "array"), ("path", .text "campus"), ("quantifier", .text "ANY"),
        ("predicate", .mapping [("kind", .text "group"), ("logic", .text "AND"),
          ("children", .list [.mapping [("kind", .text "scalar"), ("path", .text "name"),
            ("valueType", .text "string"), ("op", .text "eq"), ("value", .text "Lyon")]])])]])]

/-- Profiles by their logins. -/
def campusProfiles : List (String × Value) :=
  [("alice", .mapping [("campus", .list [.mapping [("name", .text "Lyon")]])]),
    ("bob", .mapping [("campus", .list [.mapping [("name", .text "Paris")]]), ("wallet", .int 10)]),
    ("carol", .mapping [("wallet", .int 5000)])]

/-- A request in a fresh journal that records from the level of information on. -/
def campusRequest (id : String) (roleId : Option String) : Request 20 where
  id
  roleId
  journal := { threshold := 20 }
  level := rfl

theorem requests_agree_campusProfiles :
    ∃ canonical partition,
      (campusRequest "q2" (some "role-7")).validated {} (.mapping campusEntries) =
          .ok (.valid canonical) ∧
        (campusRequest "q3" none).batched {} (.mapping campusEntries) (.mapping campusProfiles) =
            .ok partition ∧
          partition.Splits ["alice", "bob", "carol"] ∧
            partition = { matched := ["alice", "carol"], unmatched := ["bob"] } := by
  have counted (node : RuleNode) (loaded : policy {} (.mapping campusEntries) = .ok node) :
      Numeral.isTooLong node.nodes.length = false := by
    have short : (policy {} (.mapping campusEntries)).toOption.all
        (fun node => !Numeral.isTooLong node.nodes.length) = true := by decide +kernel
    rw [loaded] at short
    simpa [Except.toOption] using short
  have accepted : ∀ document ∈ campusProfiles,
      ((campusRequest "q1" none).evaluated {} (.mapping campusEntries) document.2).isOk = true := by
    decide +kernel
  have declared (document : String × Value) (member : document ∈ campusProfiles) :
      IsDeclared ((campusRequest "q1" none).evaluated {} (.mapping campusEntries) document.2) := by
    obtain ⟨answer, outcome⟩ := Except.exists_of_isOk (accepted document member)
    rw [outcome]
    exact trivial
  obtain ⟨decisions, batches⟩ := requests_agree {} campusEntries (campusRequest "q1" none)
    (campusRequest "q2" (some "role-7")) (campusRequest "q3" none) counted
  obtain ⟨answer, outcome⟩ := Except.exists_of_isOk (accepted _ List.mem_cons_self)
  have valid := ((decisions _ (declared _ List.mem_cons_self)).1 answer.canonical).mpr
    ⟨answer, outcome, rfl⟩
  obtain ⟨partition, done, splits, -⟩ := batches campusProfiles (by decide) (by decide +kernel)
    declared ⟨answer.canonical, valid⟩
  have found : ((campusRequest "q3" none).batched {} (.mapping campusEntries)
      (.mapping campusProfiles)).toOption =
        some { matched := ["alice", "carol"], unmatched := ["bob"] } := by decide +kernel
  rw [done] at found
  exact ⟨answer.canonical, partition, valid, done, splits, Option.some.inj found⟩

end Service

end Rulebook
