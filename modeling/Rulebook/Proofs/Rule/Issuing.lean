import Rulebook.Proofs.Editing.Identities
import Rulebook.Proofs.Number.Numeral
import Rulebook.Proofs.Results
import Rulebook.Proofs.Rule.Canonical
import Rulebook.Proofs.Rule.Loaded
import Rulebook.Rule.Build
import Rulebook.Rule.Load
import Rulebook.Rule.Scaffold

/-!
# Identities of a session

Every computation draws the next identities of its session and no others, also one that stops half
way.  A rule that is loaded or scaffolded has the identities that have been drawn for it, a node
before the nodes below it, and what has been drawn once is never drawn again.
-/

namespace Rulebook

namespace Session

/-- Whether a session issues identities one after the other and is another session afterwards. -/
inductive Issues : Session → List String → Session → Prop where
  | nothing (session : Session) : Issues session [] session
  | one {session last : Session} {ids : List String} (rest : Issues session.advance ids last) :
      Issues session (session.next :: ids) last

theorem Issues.append {session between last : Session} {ids others : List String}
    (first : session.Issues ids between) (second : between.Issues others last) :
    session.Issues (ids ++ others) last := by
  induction first with
  | nothing => exact second
  | one _ ih => exact .one (ih second)

/-- The identities that a session has issued when it has become another one. -/
def idsUntil (session last : Session) : List String :=
  (List.range' (session.issued + 1) (last.issued - session.issued)).map session.idAt

/-- The session after some more identities. -/
def after (session : Session) (count : Nat) : Session :=
  { session with issued := session.issued + count }

/-- The identities that are issued have consecutive numbers. -/
theorem Issues.eq {session last : Session} {ids : List String} (issues : session.Issues ids last) :
    ids = (List.range' (session.issued + 1) ids.length).map session.idAt ∧
      last = session.after ids.length := by
  induction issues with
  | nothing => exact ⟨rfl, rfl⟩
  | @one session last ids rest ih =>
      obtain ⟨same, stop⟩ := ih
      constructor
      · rw [List.length_cons, List.range'_succ, List.map_cons]
        exact congrArg (session.next :: ·) same
      · rw [stop]
        simp only [after, advance, List.length_cons, Nat.add_assoc, Nat.add_comm 1]

theorem Issues.eq_idsUntil {session last : Session} {ids : List String}
    (issues : session.Issues ids last) : ids = session.idsUntil last := by
  obtain ⟨same, stop⟩ := issues.eq
  have count : last.issued - session.issued = ids.length := by
    rw [stop]
    exact Nat.add_sub_cancel_left _ _
  rw [idsUntil, count]
  exact same

/-- Different numbers make different identities. -/
theorem idAt_injective (session : Session) : Function.Injective session.idAt := by
  intro number other same
  have digits := congrArg String.toList same
  rw [idAt, idAt, String.toList_append, String.toList_append, List.append_cancel_left_eq,
    Nat.toString_eq_repr, Nat.toString_eq_repr, Nat.toList_repr, Nat.toList_repr] at digits
  rw [← Text.decimalNumber_toDigits number, digits, Text.decimalNumber_toDigits]

theorem Issues.nodup {session last : Session} {ids : List String}
    (issues : session.Issues ids last) : ids.Nodup := by
  rw [issues.eq.1]
  exact List.Nodup.map session.idAt_injective List.nodup_range'

end Session

/-! ## Drawing identities -/

/-- Whether a computation draws identities from its session, of which a relation holds together
with the result when it comes to one. -/
def Issuing.Draws {α : Type} (computation : Issuing α) (drawing : α → List String → Prop) : Prop :=
  ∀ session, ∃ ids, session.Issues ids (computation.run session).2 ∧
    ∀ value, (computation.run session).1 = .ok value → drawing value ids

namespace Issuing

variable {α β : Type} {drawing : α → List String → Prop}

theorem draws_pure {value : α} (holds : drawing value []) :
    Draws (pure value) drawing := by
  intro session
  refine ⟨[], .nothing session, ?_⟩
  intro result same
  cases same
  exact holds

theorem draws_throw (fault : Fault) : Draws (throw fault) drawing := by
  intro session
  refine ⟨[], .nothing session, ?_⟩
  intro result impossible
  cases impossible

/-- What is drawn by two steps is what the first draws and then what the second draws. -/
theorem Draws.bind {first : Issuing α} {next : α → Issuing β} {early : α → List String → Prop}
    {drawing : β → List String → Prop} (one : first.Draws early)
    (other : ∀ value ids, early value ids →
      (next value).Draws fun result more => drawing result (ids ++ more)) :
    (first >>= next).Draws drawing := by
  intro session
  obtain ⟨ids, issues, draws⟩ := one session
  change ∃ ids, session.Issues ids (StateT.bind first.run (ExceptT.bindCont next) session).2 ∧
    ∀ value, (StateT.bind first.run (ExceptT.bindCont next) session).1 = .ok value → _
  simp only [StateT.bind, Bind.bind]
  generalize first.run session = outcome at issues draws ⊢
  rcases outcome with ⟨fault | value, between⟩
  · refine ⟨ids, issues, ?_⟩
    intro result impossible
    cases impossible
  · obtain ⟨more, further, later⟩ := other value ids (draws value rfl) between
    exact ⟨ids ++ more, issues.append further, later⟩

theorem draws_bind_nextId {next : String → Issuing α}
    (rest : ∀ id, (next id).Draws fun result more => drawing result (id :: more)) :
    Draws (nextId >>= next) drawing := by
  have one : Draws nextId fun id ids => ids = [id] := by
    intro session
    refine ⟨[session.next], .one (.nothing _), ?_⟩
    intro id same
    cases same
    rfl
  refine one.bind fun id ids drawn => ?_
  subst drawn
  exact rest id

/-- A step that may stop and takes no identity. -/
theorem draws_bind_lift {result : Except Fault β} {next : β → Issuing α}
    (rest : ∀ value, result = .ok value → (next value).Draws drawing) :
    Draws (liftM result >>= next) drawing := by
  cases result with
  | error fault => exact draws_throw fault
  | ok value => exact rest value rfl

theorem draws_lift {result : Except Fault α}
    (holds : ∀ value, result = .ok value → drawing value []) : Draws (liftM result) drawing := by
  cases result with
  | error fault => exact draws_throw fault
  | ok value => exact draws_pure (holds value rfl)

end Issuing

namespace RuleNode

/-! ## Loading -/

theorem draws_loadChildren {loadChild : String → Value → Issuing RuleNode}
    (each : ∀ location data, (loadChild location data).Draws fun node drawn => node.ids = drawn)
    (location : String) (position : Nat) (documents : List Value) :
    (loadChildren loadChild location position documents).Draws
      fun nodes drawn => nodes.flatMap ids = drawn := by
  induction documents generalizing position with
  | nil => exact Issuing.draws_pure rfl
  | cons document documents ih =>
      rw [loadChildren]
      refine (each _ document).bind fun node first here => ?_
      refine (ih _).bind fun nodes others there => ?_
      refine Issuing.draws_pure ?_
      rw [List.flatMap_cons, here, there, List.append_nil]

/-- A rule that is loaded has the identities that have been drawn, a node before the nodes below
it. -/
theorem draws_load (maxDepth : Int) (depth : Nat) (location : String) (data : Value) :
    (load maxDepth depth location data).Draws fun node drawn => node.ids = drawn := by
  induction depth generalizing location data with
  | zero => exact Issuing.draws_throw _
  | succ depth ih =>
      rw [load]
      refine Issuing.draws_bind_lift fun document _ => ?_
      refine Issuing.draws_bind_nextId fun id => ?_
      cases document with
      | group logic documents =>
          refine (draws_loadChildren ih location 0 documents).bind fun children drawn same => ?_
          refine Issuing.draws_pure ?_
          rw [ids_group, same, List.append_nil]
      | scalar path type operator value value2 =>
          dsimp only
          split
          · exact Issuing.draws_pure rfl
          · exact Issuing.draws_throw _
      | array path kind count index predicate =>
          refine (ih _ predicate).bind fun node drawn same => ?_
          refine Issuing.draws_lift fun rule made => ?_
          obtain ⟨quantifier, predicateId, logic, children, rfl, rfl⟩ := arrayOver_eq_ok made
          rw [ids_array, ← same, ids_group, List.append_nil]

theorem draws_ofPortable (maxDepth : Int) (data : Value) :
    (ofPortable maxDepth data).Draws fun node drawn => node.ids = drawn :=
  draws_load maxDepth maxDepth.toNat "$" data

/-! ## Scaffolding -/

theorem draws_ofSample (path sample : Value) :
    (ofSample path sample).Draws fun node drawn => node.ids = drawn := by
  rw [ofSample]
  refine Issuing.draws_bind_nextId fun id => ?_
  exact Issuing.draws_pure rfl

/-- A rule that is made for a path has the identities that have been drawn, an array rule and its
predicate before what the predicate holds. -/
theorem draws_scaffoldFrom (front path : Path) (sample : Value) :
    (scaffoldFrom front path sample).Draws fun node drawn => node.ids = drawn := by
  induction path generalizing front sample with
  | nil =>
      rw [scaffoldFrom]
      refine Issuing.draws_bind_lift fun value _ => ?_
      exact draws_ofSample _ value
  | cons segment rest ih =>
      rw [scaffoldFrom]
      split
      · refine Issuing.draws_bind_lift fun elements _ => ?_
        refine Issuing.draws_bind_nextId fun id => ?_
        refine Issuing.draws_bind_nextId fun predicateId => ?_
        split
        · refine (ih [] _).bind fun child drawn same => ?_
          refine Issuing.draws_pure ?_
          rw [ids_array, List.flatMap_singleton, same, List.append_nil]
        · split
          · refine (draws_ofSample _ _).bind fun child drawn same => ?_
            refine Issuing.draws_pure ?_
            rw [ids_array, List.flatMap_singleton, same, List.append_nil]
          · exact Issuing.draws_pure rfl
      · exact ih _ sample

theorem draws_scaffold (path : Path) (sample : Value) :
    (scaffold path sample).Draws fun node drawn => node.ids = drawn :=
  draws_scaffoldFrom [] path sample

/-! ## Building -/

theorem id_of_buildGroup {id : String} {logic : Value} {children : List Part} {node : RuleNode}
    (built : buildGroup id logic children = .ok node) : node.id = id := by
  obtain ⟨logic, -, built⟩ := Except.bind_eq_ok.mp built
  obtain ⟨children, -, built⟩ := Except.bind_eq_ok.mp built
  cases built
  rfl

theorem id_of_buildScalar {id : String} {path type operator value value2 : Value}
    {node : RuleNode} (built : buildScalar id path type operator value value2 = .ok node) :
    node.id = id := by
  obtain ⟨type, -, built⟩ := Except.bind_eq_ok.mp built
  obtain ⟨operator, -, built⟩ := Except.bind_eq_ok.mp built
  obtain ⟨condition, -, built⟩ := Except.bind_eq_ok.mp built
  cases built
  rfl

/-- An array rule is built over the group that it is offered. -/
theorem buildArray_eq_ok {id : String} {path quantifier : Value} {predicate : Part}
    {count index : Value} {node : RuleNode}
    (built : buildArray id path quantifier predicate count index = .ok node) :
    ∃ kind predicateId logic children, predicate = .node (.group predicateId logic children) ∧
      node = .array id path kind predicateId logic children := by
  obtain ⟨kind, -, built⟩ := Except.bind_eq_ok.mp built
  split at built
  · obtain ⟨quantifier, -, built⟩ := Except.bind_eq_ok.mp built
    cases built
    exact ⟨quantifier, _, _, _, rfl, rfl⟩
  · cases built

theorem draws_newGroup (logic : Value) (children : List Part) :
    (newGroup logic children).Draws fun node drawn => [node.id] = drawn := by
  rw [newGroup]
  refine Issuing.draws_bind_nextId fun id => ?_
  refine Issuing.draws_lift fun node built => ?_
  rw [id_of_buildGroup built]

theorem draws_newScalar (path type operator value value2 : Value) :
    (newScalar path type operator value value2).Draws fun node drawn => [node.id] = drawn := by
  rw [newScalar]
  refine Issuing.draws_bind_nextId fun id => ?_
  refine Issuing.draws_lift fun node built => ?_
  rw [id_of_buildScalar built]

/-- The identities that are new in an array rule over what has been offered as its predicate: an
empty group in place of null is new as well. -/
def newIds : (predicate : Part) → RuleNode → List String
  | .other .null, node => node.ids
  | _, node => [node.id]

theorem draws_newArray (path quantifier : Value) (predicate : Part) (count index : Value) :
    (newArray path quantifier predicate count index).Draws
      fun node drawn => newIds predicate node = drawn := by
  rw [newArray]
  refine Issuing.draws_bind_nextId fun id => ?_
  split
  · -- The group in place of null is the second to draw.
    rw [map_eq_pure_bind, newGroup, bind_assoc, bind_assoc]
    refine Issuing.draws_bind_nextId fun predicateId => ?_
    change Issuing.Draws (liftM (buildArray id path quantifier
      (.node (.group predicateId .and [])) count index)) _
    refine Issuing.draws_lift fun node built => ?_
    obtain ⟨kind, _, logic, children, offered, rfl⟩ := buildArray_eq_ok built
    cases offered
    rw [newIds, ids_array]
    rfl
  · rename_i predicate given
    refine Issuing.draws_lift fun node built => ?_
    obtain ⟨kind, predicateId, logic, children, rfl, rfl⟩ := buildArray_eq_ok built
    rfl

end RuleNode

/-! ## Calls -/

/-- A call that takes identities from a session. -/
inductive Call where
  | nextId
  | newGroup (logic : Value) (children : List Part)
  | newScalar (path type operator value value2 : Value)
  | newArray (path quantifier : Value) (predicate : Part) (count index : Value)
  | load (maxDepth : Int) (data : Value)
  | scaffold (path : Path) (sample : Value)

namespace Call

/-- Carries out a call; the identities that it gives are those of the nodes that it makes. -/
def give : Call → Issuing (List String)
  | nextId => do
      let id ← Rulebook.nextId
      return [id]
  | newGroup logic children => do
      let node ← RuleNode.newGroup logic children
      return [node.id]
  | newScalar path type operator value value2 => do
      let node ← RuleNode.newScalar path type operator value value2
      return [node.id]
  | newArray path quantifier predicate count index => do
      let node ← RuleNode.newArray path quantifier predicate count index
      return RuleNode.newIds predicate node
  | load maxDepth data => do
      let node ← RuleNode.ofPortable maxDepth data
      return node.ids
  | scaffold path sample => do
      let node ← RuleNode.scaffold path sample
      return node.ids

/-- A call gives what it draws. -/
theorem draws_give (call : Call) : call.give.Draws fun ids drawn => ids = drawn := by
  have returned {first : Issuing RuleNode} {new : RuleNode → List String}
      (draws : first.Draws fun node drawn => new node = drawn) :
      Issuing.Draws (first >>= fun node => pure (new node)) fun ids drawn => ids = drawn := by
    refine draws.bind fun node drawn same => ?_
    refine Issuing.draws_pure ?_
    rw [same, List.append_nil]
  cases call with
  | nextId =>
      refine Issuing.draws_bind_nextId fun id => ?_
      exact Issuing.draws_pure rfl
  | newGroup logic children => exact returned (RuleNode.draws_newGroup logic children)
  | newScalar path type operator value value2 =>
      exact returned (RuleNode.draws_newScalar path type operator value value2)
  | newArray path quantifier predicate count index =>
      exact returned (RuleNode.draws_newArray path quantifier predicate count index)
  | load maxDepth data => exact returned (RuleNode.draws_ofPortable maxDepth data)
  | scaffold path sample => exact returned (RuleNode.draws_scaffold path sample)

/-- What a session issues in calls one after the other, call by call, also in those that stop. -/
def drawn : List Call → Session → List (List String)
  | [], _ => []
  | call :: calls, session =>
      let later := (call.give.run session).2
      session.idsUntil later :: drawn calls later

/-- The calls issue identities one after the other. -/
theorem exists_issues_drawn (calls : List Call) (session : Session) :
    ∃ last, session.Issues (drawn calls session).flatten last := by
  induction calls generalizing session with
  | nil => exact ⟨session, .nothing session⟩
  | cons call calls ih =>
      obtain ⟨ids, issues, -⟩ := call.draws_give session
      obtain ⟨last, further⟩ := ih (call.give.run session).2
      refine ⟨last, ?_⟩
      rw [drawn, List.flatten_cons, ← issues.eq_idsUntil]
      exact issues.append further

end Call

/-- Whether a rule has the next identities of a session, a node before the nodes below it, and
another session goes on behind them. -/
def RuleNode.IsNumbered (node : RuleNode) (session last : Session) : Prop :=
  node.ids = (List.range' (session.issued + 1) node.nodes.length).map session.idAt ∧
    last = { session with issued := session.issued + node.nodes.length }

theorem Issuing.Draws.isNumbered {computation : Issuing RuleNode}
    (draws : computation.Draws fun node drawn => node.ids = drawn) {session last : Session}
    {node : RuleNode} (done : computation.run session = (.ok node, last)) :
    node.IsNumbered session last := by
  obtain ⟨ids, issues, same⟩ := draws session
  rw [done] at issues same
  cases same node rfl
  have numbers := issues.eq
  rwa [RuleNode.ids, List.length_map] at numbers

/-- A rule that is loaded or made for a path has the next identities of the session in pre-order.
A call that succeeds gives the identities that it draws, and in a row of calls none is drawn twice,
even when some of the calls stop. -/
theorem isNumbered_and_nodup_drawn :
    (∀ maxDepth data session node last,
        (RuleNode.ofPortable maxDepth data).run session = (.ok node, last) →
          node.IsNumbered session last) ∧
      (∀ path sample session node last,
        (RuleNode.scaffold path sample).run session = (.ok node, last) →
          node.IsNumbered session last) ∧
        (∀ (call : Call) session ids last, call.give.run session = (.ok ids, last) →
          ids = session.idsUntil last) ∧
          ∀ calls session, (Call.drawn calls session).flatten.Nodup := by
  refine ⟨?_, ?_, ?_, ?_⟩
  · intro maxDepth data session node last done
    exact (RuleNode.draws_ofPortable maxDepth data).isNumbered done
  · intro path sample session node last done
    exact (RuleNode.draws_scaffold path sample).isNumbered done
  · intro call session given last done
    obtain ⟨ids, issues, same⟩ := call.draws_give session
    rw [done] at issues same
    rw [same given rfl]
    exact issues.eq_idsUntil
  · intro calls session
    obtain ⟨last, issues⟩ := Call.exists_issues_drawn calls session
    exact issues.nodup

/-- A group with a group in it and, behind that, something that is no rule. -/
def halfDocument : Value :=
  .mapping [("kind", .text "group"), ("logic", .text "AND"),
    ("children", .list [.mapping [("kind", .text "group"), ("logic", .text "OR")], .null])]

/-- A document that is not loaded, one that is, and an identity that is asked for. -/
def halfSession : List Call :=
  [.load 8 halfDocument,
    .load 8 (.mapping [("kind", .text "group"), ("logic", .text "AND")]), .nextId]

/-- Loading stops at the second child; the identities that the group and its first child had are
not issued again. -/
theorem isNumbered_and_nodup_drawn_halfSession :
    (RuleNode.ofPortable 8 halfDocument).run (.fresh "r") =
        (.error (.document "rule node must be an object"
          [("location", .text "$.children[1]")]), ⟨"r", 2⟩) ∧
      (RuleNode.group "r3" .and []).IsNumbered ⟨"r", 2⟩ ⟨"r", 3⟩ ∧
        Call.drawn halfSession (.fresh "r") = [["r1", "r2"], ["r3"], ["r4"]] ∧
          (Call.drawn halfSession (.fresh "r")).flatten.Nodup := by
  refine ⟨rfl, ?_, rfl, ?_⟩
  · exact isNumbered_and_nodup_drawn.1 8
      (.mapping [("kind", .text "group"), ("logic", .text "AND")]) ⟨"r", 2⟩ _ _ rfl
  · exact isNumbered_and_nodup_drawn.2.2.2 _ _

end Rulebook
