import Rulebook.Proofs.Json.Reading
import Rulebook.Proofs.Rule.Acceptance

/-!
# Refused documents

Loading ends with a rule or with a rejection of the document, unless it comes to a node whose kind
is no kind and holds an integer with too many digits to be written: the message that would name it
cannot be made.  A rejection tells a place at or below the root of the document, and in its problem
list, when it has one, at least one problem.
-/

namespace Rulebook

/-- Whether a computation ends as declared: with a result or with a rejection of the document. -/
def IsDeclared {α : Type} : Except Fault α → Prop
  | .ok _ => True
  | .error (.rejected rejection) => rejection.category = .document
  | .error _ => False

/-- Whether a problem list in the details of a rejection, if there is one, tells a problem. -/
def TellsProblems (details : List (String × Value)) : Prop :=
  details.lookup "errors" = none ∨
    ∃ issues, issues ≠ [] ∧ details.lookup "errors" = some (.list (issues.map RuleNode.issueValue))

/-- Whether a fault rejects a document for a place at or below a location. -/
def Fault.RefusesBelow (location : String) (fault : Fault) : Prop :=
  ∃ message place details,
    fault = .document message (("location", .text (location ++ place)) :: details) ∧
      TellsProblems details

theorem Fault.RefusesBelow.of_append {location place : String} {fault : Fault}
    (refuses : fault.RefusesBelow (location ++ place)) : fault.RefusesBelow location := by
  obtain ⟨message, deeper, details, rfl, tells⟩ := refuses
  exact ⟨message, place ++ deeper, details, by rw [String.append_assoc], tells⟩

/-- A rejection that tells its location and nothing else about it. -/
theorem Fault.refusesBelow_of_details (location message : String)
    {details : List (String × Value)} (none : details.lookup "errors" = none) :
    (Fault.document message (("location", .text location) :: details)).RefusesBelow location :=
  ⟨message, "", details, by rw [String.append_empty], .inl none⟩

theorem Fault.RefusesBelow.isDeclared {α : Type} {location : String} {fault : Fault}
    (refuses : fault.RefusesBelow location) : IsDeclared (.error fault : Except Fault α) := by
  obtain ⟨message, place, details, rfl, -⟩ := refuses
  rfl

namespace Value

/-- Whether loading a document over at most so many levels comes to a node whose kind cannot be
shown: everything before it is accepted, and the node itself is not too deep. -/
inductive StopsUnshown : (depth : Nat) → Value → Prop where
  | kind {depth : Nat} {entries : List (String × Value)}
      (unshown : ((entries.lookup "kind").getD null).isShowable = false) :
      StopsUnshown (depth + 1) (mapping entries)
  | child {depth : Nat} {entries : List (String × Value)} {logic : Logic}
      {before after : List Value} {data : Value}
      (fields : NodeDocument.HasFields entries (.group logic (before ++ data :: after)))
      (accepted : ∀ document ∈ before, document.IsAcceptedWithin depth)
      (stops : StopsUnshown depth data) : StopsUnshown (depth + 1) (mapping entries)
  | predicate {depth : Nat} {entries : List (String × Value)} {path : String}
      {quantifier : QuantifierKind} {count index : Option Int} {data : Value}
      (fields : NodeDocument.HasFields entries (.array path quantifier count index data))
      (stops : StopsUnshown depth data) : StopsUnshown (depth + 1) (mapping entries)

end Value

/-! ## The fields of a node -/

theorem Field.issue_eq_nil {α : Type} {name : String} {result : Field.Read α} :
    Field.issue name result = [] ↔ ∃ value, result = .ok value := by
  cases result <;> simp [issue]

/-- When the fields of a node cannot be read, there is a problem to tell. -/
theorem NodeDocument.ne_nil_of_read {kind : NodeKind} {entries : List (String × Value)}
    {issues : List FieldIssue} (failed : read kind entries = .error issues) : issues ≠ [] := by
  rintro rfl
  cases kind with
  | group =>
      rw [read] at failed
      dsimp only at failed
      split at failed
      · cases failed
      · rename_i unread
        simp only [Except.error.injEq, List.append_eq_nil_iff, Field.issue_eq_nil] at failed
        obtain ⟨⟨logic, first⟩, children, second⟩ := failed
        exact unread logic children first second
  | scalar =>
      rw [read] at failed
      dsimp only at failed
      split at failed
      · cases failed
      · rename_i unread
        simp only [Except.error.injEq, List.append_eq_nil_iff, Field.issue_eq_nil] at failed
        obtain ⟨⟨⟨path, first⟩, type, second⟩, operator, third⟩ := failed
        exact unread path type operator first second third
  | array =>
      rw [read] at failed
      dsimp only at failed
      split at failed
      · cases failed
      · rename_i unread
        simp only [Except.error.injEq, List.append_eq_nil_iff, Field.issue_eq_nil] at failed
        obtain ⟨⟨⟨⟨⟨path, first⟩, quantifier, second⟩, count, third⟩, index, fourth⟩,
          predicate, fifth⟩ := failed
        exact unread path quantifier count index predicate first second third fourth fifth

/-- A kind that cannot be shown is no kind. -/
theorem NodeKind.ofValue?_eq_none {named : Value} (unshown : named.isShowable = false) :
    NodeKind.ofValue? named = none := by
  cases named with
  | text text => cases unshown
  | _ => rfl

theorem Value.literal_eq_error {value : Value} {fault : Fault} :
    value.literal = .error fault ↔ fault = .integerTooLong ∧ value.isShowable = false := by
  rw [literal, ← isSome_literal?]
  cases value.literal? <;> simp [eq_comm]

namespace RuleNode

theorem readNode_of_unshown {location : String} {entries : List (String × Value)}
    (unshown : ((entries.lookup "kind").getD .null).isShowable = false) :
    readNode location (.mapping entries) = .error .integerTooLong := by
  simp only [readNode, NodeKind.ofValue?_eq_none unshown]
  rw [Value.literal_eq_error.mpr ⟨rfl, unshown⟩]
  rfl

/-- A node that cannot be read is rejected, or its kind cannot be shown. -/
theorem refusesBelow_of_readNode {location : String} {data : Value} {fault : Fault}
    (failed : readNode location data = .error fault) :
    (fault = .integerTooLong ∧ ∃ entries, data = .mapping entries ∧
      ((entries.lookup "kind").getD .null).isShowable = false) ∨
        fault.RefusesBelow location := by
  cases data with
  | mapping entries =>
      rw [readNode] at failed
      split at failed
      · rename_i kind named
        cases outcome : NodeDocument.read kind entries with
        | ok fields =>
            rw [outcome] at failed
            cases failed
        | error issues =>
            rw [outcome] at failed
            cases failed
            refine .inr ⟨"invalid " ++ kind.name ++ " rule", "",
              [("errors", .list (issues.map issueValue))], ?_, ?_⟩
            · rw [String.append_empty]
              rfl
            · exact .inr ⟨issues, NodeDocument.ne_nil_of_read outcome, rfl⟩
      · rcases Except.bind_eq_error.mp failed with unshown | ⟨shown, -, refused⟩
        · obtain ⟨rfl, long⟩ := Value.literal_eq_error.mp unshown
          exact .inl ⟨rfl, entries, rfl, long⟩
        · cases refused
          exact .inr (Fault.refusesBelow_of_details location _ rfl)
  | _ =>
      cases failed
      exact .inr (Fault.refusesBelow_of_details location _ rfl)

end RuleNode

/-! ## What is made of the fields -/

/-- Whether a fault rejects a rule and has no problem list. -/
def Fault.RefusesRule (fault : Fault) : Prop :=
  ∃ message details, fault = .rule message details ∧ details.lookup "errors" = none

theorem Fault.RefusesRule.atLocation {fault : Fault} (refuses : fault.RefusesRule)
    (location : String) : (RuleNode.atLocation location fault).RefusesBelow location := by
  obtain ⟨message, details, rfl, none⟩ := refuses
  exact refusesBelow_of_details location message none

theorem Condition.refusesRule_of_make {path : Value} {type : ValueType} {operator : Operator}
    {value value2 : Value} {fault : Fault}
    (failed : Condition.make path type operator value value2 = .error fault) :
    fault.RefusesRule := by
  rw [Condition.make] at failed
  split at failed
  · cases failed
  · cases failed
    exact ⟨_, _, rfl, rfl⟩

theorem Value.refusesRule_of_natural {name : String} {value : Value} {fault : Fault}
    (other : ("errors" == name) = false) (failed : value.natural name = .error fault) :
    fault.RefusesRule := by
  rw [natural.eq_def] at failed
  split at failed
  · cases failed
  · cases failed
    refine ⟨_, [(name, value)], rfl, ?_⟩
    rw [List.lookup_cons, other]
    rfl

namespace QuantifierKind

theorem refusesRule_of_unused {kind : QuantifierKind} {name : String} {path value : Value}
    {fault : Fault} (failed : kind.unused name path value = .error fault) :
    fault.RefusesRule := by
  rw [unused] at failed
  split at failed
  · cases failed
  · cases failed
    exact ⟨_, _, rfl, rfl⟩

/-- The number that a quantifier reads, like the one that it does not, is refused as part of a
rule. -/
theorem refusesRule_of_make {kind : QuantifierKind} {path count index : Value} {fault : Fault}
    (failed : kind.make path count index = .error fault) : fault.RefusesRule := by
  cases kind with
  | any | all | none =>
      rcases Except.bind_eq_error.mp failed with first | ⟨_, -, rest⟩
      · exact refusesRule_of_unused first
      · rcases Except.bind_eq_error.mp rest with second | ⟨_, -, impossible⟩
        · exact refusesRule_of_unused second
        · cases impossible
  | countAtLeast | countExactly | countAtMost =>
      rcases Except.bind_eq_error.mp failed with first | ⟨_, -, rest⟩
      · exact Value.refusesRule_of_natural rfl first
      · rcases Except.bind_eq_error.mp rest with second | ⟨_, -, impossible⟩
        · exact refusesRule_of_unused second
        · cases impossible
  | index =>
      rcases Except.bind_eq_error.mp failed with first | ⟨_, -, rest⟩
      · exact refusesRule_of_unused first
      · rcases Except.bind_eq_error.mp rest with second | ⟨_, -, impossible⟩
        · exact Value.refusesRule_of_natural rfl second
        · cases impossible

end QuantifierKind

namespace RuleNode

theorem refusesBelow_of_arrayOver {id location path : String} {kind : QuantifierKind}
    {count index : Option Int} {predicate : RuleNode} {fault : Fault}
    (failed : arrayOver id location path kind count index predicate = .error fault) :
    fault.RefusesBelow location := by
  cases predicate with
  | group predicateId logic children =>
      simp only [arrayOver] at failed
      split at failed
      · cases failed
      · rename_i refused
        cases failed
        exact (QuantifierKind.refusesRule_of_make refused).atLocation location
  | _ =>
      cases failed
      exact (Fault.refusesBelow_of_details (predicateLocation location) _ rfl).of_append

/-! ## Loading -/

/-- Loading children stops at the first one that is not loaded. -/
theorem loadChildren_eq_error {loadChild : String → Value → Issuing RuleNode}
    {location : String} {position : Nat} {documents : List Value} {session last : Session}
    {fault : Fault} :
    (loadChildren loadChild location position documents).run session = (.error fault, last) ↔
      ∃ before data after nodes between, documents = before ++ data :: after ∧
        (loadChildren loadChild location position before).run session = (.ok nodes, between) ∧
          (loadChild (childLocation location (position + before.length)) data).run between =
            (.error fault, last) := by
  induction documents generalizing position session with
  | nil =>
      constructor
      · intro impossible
        cases impossible
      · rintro ⟨before, data, after, _, _, impossible, -⟩
        cases before <;> cases impossible
  | cons document documents ih =>
      constructor
      · intro failed
        rcases ExceptT.bind_eq_error.mp failed with here | ⟨node, between, first, rest⟩
        · exact ⟨[], document, documents, [], session, rfl, rfl, here⟩
        · rcases ExceptT.bind_eq_error.mp rest with later | ⟨_, _, -, impossible⟩
          · obtain ⟨before, data, after, nodes, between, rfl, loaded, stopped⟩ := ih.mp later
            refine ⟨document :: before, data, after, node :: nodes, between, rfl, ?_, ?_⟩
            · exact ExceptT.bind_eq_ok.mpr
                ⟨node, _, first, ExceptT.bind_eq_ok.mpr ⟨nodes, _, loaded, rfl⟩⟩
            · rwa [List.length_cons, Nat.add_comm before.length, ← Nat.add_assoc]
          · cases impossible
      · rintro ⟨before, data, after, nodes, between, split, loaded, stopped⟩
        cases before with
        | nil =>
            cases split
            cases loaded
            exact ExceptT.bind_eq_error.mpr (.inl stopped)
        | cons head before =>
            cases split
            obtain ⟨node, middle, first, rest⟩ := ExceptT.bind_eq_ok.mp loaded
            obtain ⟨others, _, later, done⟩ := ExceptT.bind_eq_ok.mp rest
            cases done
            rw [List.length_cons, Nat.add_comm before.length, ← Nat.add_assoc] at stopped
            refine ExceptT.bind_eq_error.mpr (.inr ⟨node, middle, first, ?_⟩)
            exact ExceptT.bind_eq_error.mpr
              (.inl (ih.mpr ⟨before, data, after, others, between, rfl, later, stopped⟩))

theorem load_eq_error {maxDepth : Int} {depth : Nat} {location : String} {data : Value}
    {session last : Session} {fault : Fault}
    (failed : (load maxDepth (depth + 1) location data).run session = (.error fault, last)) :
    readNode location data = .error fault ∨
      ∃ document, readNode location data = .ok document ∧
        (assemble maxDepth depth location session.next document).run session.advance =
          (.error fault, last) := by
  rw [load_succ] at failed
  rcases ExceptT.bind_eq_error.mp failed with unread | ⟨document, between, read, rest⟩
  · exact .inl (congrArg Prod.fst unread)
  · have found : readNode location data = .ok document := congrArg Prod.fst read
    have same : session = between := congrArg Prod.snd read
    subst same
    rcases ExceptT.bind_eq_error.mp rest with impossible | ⟨id, later, issued, made⟩
    · cases impossible
    · cases issued
      exact .inr ⟨document, found, made⟩

/-- Loading that stops has rejected the document, or come to a kind that cannot be shown. -/
theorem refusesBelow_of_load {maxDepth : Int} {depth : Nat} {location : String} {data : Value}
    {session last : Session} {fault : Fault}
    (failed : (load maxDepth depth location data).run session = (.error fault, last)) :
    (fault = .integerTooLong ∧ data.StopsUnshown depth) ∨ fault.RefusesBelow location := by
  -- The location stays general: what is refused below a node is refused below its location too.
  induction depth generalizing location data session last with
  | zero =>
      cases failed
      exact .inr (Fault.refusesBelow_of_details location _ rfl)
  | succ depth ih =>
      rcases load_eq_error failed with unread | ⟨document, read, stopped⟩
      · rcases refusesBelow_of_readNode unread with ⟨rfl, entries, rfl, unshown⟩ | refuses
        · exact .inl ⟨rfl, .kind unshown⟩
        · exact .inr refuses
      · obtain ⟨entries, rfl, fields⟩ := readNode_eq_ok.mp read
        cases document with
        | group logic documents =>
            rcases ExceptT.bind_eq_error.mp stopped with below | ⟨_, _, -, impossible⟩
            · obtain ⟨before, child, after, nodes, between, rfl, loaded, here⟩ :=
                loadChildren_eq_error.mp below
              rcases ih here with ⟨rfl, stops⟩ | refuses
              · refine .inl ⟨rfl, .child fields (fun document member => ?_) stops⟩
                obtain ⟨_, _, _, _, loaded⟩ := exists_load_of_loadChildren loaded document member
                exact isAcceptedWithin_of_load loaded
              · rw [childLocation, String.append_assoc, String.append_assoc] at refuses
                exact .inr refuses.of_append
            · cases impossible
        | scalar path type operator value value2 =>
            rw [assemble] at stopped
            split at stopped
            · cases stopped
            · rename_i refused
              cases stopped
              exact .inr ((Condition.refusesRule_of_make refused).atLocation location)
        | array path kind count index predicate =>
            rcases ExceptT.bind_eq_error.mp stopped with below | ⟨node, between, -, rest⟩
            · rcases ih below with ⟨rfl, stops⟩ | refuses
              · exact .inl ⟨rfl, .predicate fields stops⟩
              · exact .inr refuses.of_append
            · exact .inr (refusesBelow_of_arrayOver (congrArg Prod.fst rest))

theorem load_of_readNode {maxDepth : Int} {depth : Nat} {location : String} {data : Value}
    {document : NodeDocument} (read : readNode location data = .ok document)
    (session : Session) :
    (load maxDepth (depth + 1) location data).run session =
      (assemble maxDepth depth location session.next document).run session.advance := by
  rw [load_succ, read]
  rfl

/-- At a kind that cannot be shown, loading stops without a rejection. -/
theorem load_of_stopsUnshown {depth : Nat} {data : Value} (stops : data.StopsUnshown depth)
    (maxDepth : Int) (location : String) (session : Session) :
    ∃ last, (load maxDepth depth location data).run session = (.error .integerTooLong, last) := by
  -- The documents before the one that stops are loaded, because all that they lead to is accepted.
  induction stops generalizing location session with
  | kind unshown =>
      refine ⟨session, ?_⟩
      rw [load_succ, readNode_of_unshown unshown]
      rfl
  | @child depth entries logic before after data fields accepted _ ih =>
      rw [load_of_readNode (readNode_eq_ok.mpr ⟨_, rfl, fields⟩)]
      have each : ∀ document ∈ before, ∀ location session, ∃ node last,
          (load maxDepth depth location document).run session = (.ok node, last) :=
        fun document member => exists_load_of_isAcceptedWithin (accepted document member) maxDepth
      obtain ⟨nodes, between, loaded⟩ := exists_loadChildren each location 0 session.advance
      obtain ⟨last, stopped⟩ := ih (childLocation location (0 + before.length)) between
      refine ⟨last, ExceptT.bind_eq_error.mpr (.inl ?_)⟩
      exact loadChildren_eq_error.mpr ⟨before, data, after, nodes, between, rfl, loaded, stopped⟩
  | predicate fields _ ih =>
      rw [load_of_readNode (readNode_eq_ok.mpr ⟨_, rfl, fields⟩)]
      obtain ⟨last, stopped⟩ := ih (predicateLocation location) session.advance
      exact ⟨last, ExceptT.bind_eq_error.mpr (.inl stopped)⟩

/-- Loading ends as declared unless it comes to a kind that cannot be shown. -/
theorem isDeclared_ofPortable_iff (maxDepth : Int) (data : Value) (session : Session) :
    IsDeclared ((ofPortable maxDepth data).run session).1 ↔
      ¬ data.StopsUnshown maxDepth.toNat := by
  constructor
  · intro declared stops
    obtain ⟨last, stopped⟩ := load_of_stopsUnshown stops maxDepth "$" session
    rw [ofPortable, stopped] at declared
    exact declared
  · intro shown
    rcases outcome : (ofPortable maxDepth data).run session with ⟨fault | node, last⟩
    · rcases refusesBelow_of_load outcome with ⟨-, stops⟩ | refuses
      · exact (shown stops).elim
      · exact refuses.isDeclared
    · exact trivial

end RuleNode

/-! ## Documents in text form -/

namespace Value

theorem isShowable_values {entries : List (String × Value)} {document : NodeDocument}
    (fields : NodeDocument.HasFields entries document)
    (showable : (mapping entries).isShowable = true) :
    ∀ value ∈ document.values, value.isShowable = true := by
  refine fields.forall_values (entriesAreShowable_iff.mp showable) rfl ?_
  intro value parts inside shown
  cases value with
  | list items | tuple items =>
      cases inside
      exact areShowable_iff.mp shown
  | _ => cases inside

/-- Loading a value that can be shown never comes to a kind that cannot. -/
theorem not_stopsUnshown {depth : Nat} {data : Value} (showable : data.isShowable = true) :
    ¬ data.StopsUnshown depth := by
  intro stops
  induction stops with
  | @kind depth entries unshown =>
      cases found : entries.lookup "kind" with
      | none =>
          rw [found] at unshown
          cases unshown
      | some named =>
          have shown := NodeDocument.holds_of_lookup (·.isShowable = true)
            (entriesAreShowable_iff.mp showable) found
          rw [found, Option.getD_some, shown] at unshown
          cases unshown
  | child fields _ _ ih =>
      exact ih (isShowable_values fields showable _
        (List.mem_append_right _ List.mem_cons_self))
  | predicate fields _ ih =>
      exact ih (isShowable_values fields showable _ (List.mem_singleton_self _))

end Value

/-- Settings that cannot be made are no matter of a document. -/
theorem Settings.not_isDeclared_of_make {overrides : List (String × Value)}
    {environment : List (String × String)} {fault : Fault}
    (failed : make overrides environment = .error fault) {α : Type} :
    ¬ IsDeclared (.error fault : Except Fault α) := by
  rw [make] at failed
  dsimp only at failed
  split at failed
  · cases failed
  · cases failed
    exact not_false

namespace RuleNode

/-- Loading a text ends as declared when it is not JSON, and when it is: provided that no integer in
it has too many digits and that the environment makes settings. -/
theorem isDeclared_ofText_iff (environment : List (String × String)) (text : String)
    (session : Session) :
    IsDeclared ((ofText environment text).run session).1 ↔
      (∀ digits, Json.read text.toList ≠ .error (.numeralTooLong digits)) ∧
        ∀ data, Json.read text.toList = .ok data →
          ∃ settings, Settings.make [] environment = .ok settings := by
  rw [ofText, documentOfText]
  cases outcome : Json.read text.toList with
  | error problem =>
      cases problem with
      | malformed reason remaining => exact iff_of_true rfl ⟨nofun, nofun⟩
      | numeralTooLong digits => exact iff_of_false not_false fun readable => readable.1 digits rfl
  | ok data =>
      cases made : Settings.make [] environment with
      | error fault =>
          refine iff_of_false (Settings.not_isDeclared_of_make made) fun readable => ?_
          obtain ⟨settings, impossible⟩ := readable.2 data rfl
          cases impossible
      | ok settings =>
          refine iff_of_true ?_ ⟨nofun, fun _ _ => ⟨settings, rfl⟩⟩
          have shown : ¬ data.StopsUnshown settings.maxRuleDepth.toNat :=
            Value.not_stopsUnshown (Json.isShowable_of_read outcome)
          exact (isDeclared_ofPortable_iff settings.maxRuleDepth data session).mpr shown

end RuleNode

end Rulebook
