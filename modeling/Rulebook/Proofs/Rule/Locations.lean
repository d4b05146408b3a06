import Rulebook.Proofs.Condition.Distinguishing
import Rulebook.Proofs.Rule.Refusals

/-!
# Locations of rejections

The rejection of a document tells its location.  The steps of the location can be followed from the
root of the document, all siblings before them are accepted on their own, and what stands at the
end of them is rejected on its own with the same message.  Only one message is about a step and not
about what stands there: that a predicate, which is accepted on its own, is no group.
-/

namespace Rulebook

/-- What a step adds to a location. -/
def DocumentStep.text : DocumentStep → String
  | child position => ".children[" ++ toString position ++ "]"
  | predicate => ".predicate"

/-- What some steps add to a location. -/
def DocumentStep.joined : List DocumentStep → String
  | [] => ""
  | step :: steps => step.text ++ joined steps

namespace RuleNode

/-- The message of a rejection because of a predicate that is no group. -/
def noGroupMessage : String := "array predicate must be a group"

theorem childLocation_eq (location : String) (position : Nat) :
    childLocation location position = location ++ (DocumentStep.child position).text := by
  rw [childLocation, DocumentStep.text, String.append_assoc, String.append_assoc,
    String.append_assoc]

theorem predicateLocation_eq (location : String) :
    predicateLocation location = location ++ DocumentStep.predicate.text := rfl

end RuleNode

namespace Value

open RuleNode

/-- Whether loading a document over so many levels is refused at the document itself, wherever it
stands. -/
def IsRefusedWithin (data : Value) (depth : Nat) (message : String) : Prop :=
  ∀ maxDepth location session, ∃ details last, (load maxDepth depth location data).run session =
    (.error (.document message (("location", .text location) :: details)), last)

/-- Whether a document is loaded over so many levels, wherever it stands, and gives no group. -/
def IsNoGroupWithin (data : Value) (depth : Nat) : Prop :=
  ∀ maxDepth location session, ∃ node last,
    (load maxDepth depth location data).run session = (.ok node, last) ∧ node.isGroup = false

/-- Whether loading a document over so many levels stops with a message at the end of some steps:
everything before it is accepted. -/
inductive StopsAt (message : String) : (depth : Nat) → Value → List DocumentStep → Prop where
  | here {depth : Nat} {data : Value} (other : message ≠ noGroupMessage)
      (refused : data.IsRefusedWithin depth message) : StopsAt message depth data []
  | noGroup {depth : Nat} {entries : List (String × Value)} {path : String}
      {quantifier : QuantifierKind} {count index : Option Int} {data : Value}
      (fields : NodeDocument.HasFields entries (.array path quantifier count index data))
      (same : message = noGroupMessage) (loaded : data.IsNoGroupWithin depth) :
      StopsAt message (depth + 1) (mapping entries) [.predicate]
  | child {depth : Nat} {entries : List (String × Value)} {logic : Logic}
      {before after : List Value} {data : Value} {steps : List DocumentStep}
      (fields : NodeDocument.HasFields entries (.group logic (before ++ data :: after)))
      (accepted : ∀ document ∈ before, document.IsAcceptedWithin depth)
      (stops : StopsAt message depth data steps) :
      StopsAt message (depth + 1) (mapping entries) (.child before.length :: steps)
  | predicate {depth : Nat} {entries : List (String × Value)} {path : String}
      {quantifier : QuantifierKind} {count index : Option Int} {data : Value}
      {steps : List DocumentStep}
      (fields : NodeDocument.HasFields entries (.array path quantifier count index data))
      (stops : StopsAt message depth data steps) :
      StopsAt message (depth + 1) (mapping entries) (.predicate :: steps)

/-- The first step to a document whose parent has known fields. -/
theorem at?_cons_of_hasFields {entries : List (String × Value)} {document : NodeDocument}
    (fields : NodeDocument.HasFields entries document) (step : DocumentStep)
    (steps : List DocumentStep) :
    (mapping entries).at? (step :: steps) =
      (document.below? step).bind fun next => next.at? steps := by
  rw [at?, below?_of_hasFields fields]

variable {message : String} {depth : Nat} {data : Value} {steps : List DocumentStep}

/-- Whether a document at the end of some steps is to blame for a message: it is refused on its own,
or it is a predicate that is accepted on its own and is no group. -/
def IsBlamed (sub : Value) (message : String) (depth : Nat) (steps : List DocumentStep) : Prop :=
  (message ≠ noGroupMessage → sub.IsRefusedWithin depth message) ∧
    (message = noGroupMessage →
      (∃ before, steps = before ++ [.predicate]) ∧ sub.IsNoGroupWithin depth)

theorem IsBlamed.cons {sub : Value} (blamed : sub.IsBlamed message depth steps)
    (step : DocumentStep) : sub.IsBlamed message depth (step :: steps) := by
  refine ⟨blamed.1, fun same => ?_⟩
  obtain ⟨⟨before, rfl⟩, loaded⟩ := blamed.2 same
  exact ⟨⟨step :: before, rfl⟩, loaded⟩

/-- Something stands at the end of the steps, and it is to blame. -/
theorem StopsAt.exists_at? (stops : data.StopsAt message depth steps) :
    ∃ sub, data.at? steps = some sub ∧ sub.IsBlamed message (depth - steps.length) steps := by
  induction stops with
  | here other refused => exact ⟨_, rfl, fun _ => refused, fun same => (other same).elim⟩
  | @noGroup depth _ _ _ _ _ data fields same loaded =>
      refine ⟨data, ?_, fun other => (other same).elim, fun _ => ⟨⟨[], rfl⟩, loaded⟩⟩
      rw [at?_cons_of_hasFields fields]
      rfl
  | child fields _ _ ih =>
      obtain ⟨sub, found, blamed⟩ := ih
      refine ⟨sub, ?_, ?_⟩
      · rw [at?_cons_of_hasFields fields, NodeDocument.below?, List.getElem?_append_right le_rfl,
          Nat.sub_self]
        exact found
      · rw [List.length_cons, Nat.add_sub_add_right]
        exact blamed.cons _
  | predicate fields _ ih =>
      obtain ⟨sub, found, blamed⟩ := ih
      refine ⟨sub, ?_, ?_⟩
      · rw [at?_cons_of_hasFields fields]
        exact found
      · rw [List.length_cons, Nat.add_sub_add_right]
        exact blamed.cons _

/-- The siblings before the steps are accepted. -/
theorem StopsAt.exists_sibling (stops : data.StopsAt message depth steps)
    {before after : List DocumentStep} {position earlier : Nat}
    (division : steps = before ++ .child position :: after) (less : earlier < position) :
    ∃ sibling, data.at? (before ++ [.child earlier]) = some sibling ∧
      sibling.IsAcceptedWithin (depth - (before.length + 1)) := by
  induction stops generalizing before with
  | here => simp at division
  | noGroup =>
      cases before with
      | nil => cases division
      | cons step before => simp at division
  | @child depth _ _ documents _ data steps fields accepted _ ih =>
      cases before with
      | nil =>
          cases division
          refine ⟨documents[earlier], ?_, accepted _ (List.getElem_mem less)⟩
          rw [List.nil_append, at?_cons_of_hasFields fields, NodeDocument.below?,
            List.getElem?_append_left less, List.getElem?_eq_getElem less]
          rfl
      | cons step before =>
          obtain ⟨rfl, deeper⟩ := List.cons.inj division
          obtain ⟨sibling, found, within⟩ := ih deeper
          refine ⟨sibling, ?_, ?_⟩
          · rw [List.cons_append, at?_cons_of_hasFields fields, NodeDocument.below?,
              List.getElem?_append_right le_rfl, Nat.sub_self]
            exact found
          · rwa [List.length_cons, Nat.add_sub_add_right]
  | predicate fields _ ih =>
      cases before with
      | nil => cases division
      | cons step before =>
          obtain ⟨rfl, deeper⟩ := List.cons.inj division
          obtain ⟨sibling, found, within⟩ := ih deeper
          refine ⟨sibling, ?_, ?_⟩
          · rw [List.cons_append, at?_cons_of_hasFields fields]
            exact found
          · rwa [List.length_cons, Nat.add_sub_add_right]

/-- Whether details tell the end of the steps at which loading a document from a location over so
many levels stops with a message. -/
def TellsStop (data : Value) (message : String) (depth : Nat) (location : String)
    (details : List (String × Value)) : Prop :=
  ∃ steps rest, details = ("location", .text (location ++ DocumentStep.joined steps)) :: rest ∧
    data.StopsAt message depth steps

variable {entries details rest : List (String × Value)} {location : String}

theorem IsRefusedWithin.tellsStop (other : message ≠ noGroupMessage)
    (refused : data.IsRefusedWithin depth message) :
    data.TellsStop message depth location (("location", .text location) :: rest) := by
  refine ⟨[], rest, ?_, .here other refused⟩
  rw [DocumentStep.joined, String.append_empty]

theorem TellsStop.child {logic : Logic} {before after : List Value}
    (told : data.TellsStop message depth (childLocation location before.length) details)
    (fields : NodeDocument.HasFields entries (.group logic (before ++ data :: after)))
    (accepted : ∀ document ∈ before, document.IsAcceptedWithin depth) :
    (mapping entries).TellsStop message (depth + 1) location details := by
  obtain ⟨steps, rest, rfl, stops⟩ := told
  refine ⟨.child before.length :: steps, rest, ?_, .child fields accepted stops⟩
  rw [childLocation_eq, String.append_assoc, DocumentStep.joined]

theorem TellsStop.predicate {path : String} {quantifier : QuantifierKind}
    {count index : Option Int}
    (told : data.TellsStop message depth (predicateLocation location) details)
    (fields : NodeDocument.HasFields entries (.array path quantifier count index data)) :
    (mapping entries).TellsStop message (depth + 1) location details := by
  obtain ⟨steps, rest, rfl, stops⟩ := told
  refine ⟨.predicate :: steps, rest, ?_, .predicate fields stops⟩
  rw [predicateLocation_eq, String.append_assoc, DocumentStep.joined]

end Value

/-! ## Messages -/

/-- The fault of a rule that is refused for something else than its predicate. -/
def Fault.RefusesOtherwise (fault : Fault) : Prop :=
  ∃ message details, fault = .rule message details ∧ message ≠ RuleNode.noGroupMessage

theorem Fault.refusesOtherwise_rule {message : String} {details : List (String × Value)} {c : Char}
    (head : message.toList.head? = some c) (other : c ≠ 'a') :
    (Fault.rule message details).RefusesOtherwise := by
  have start : RuleNode.noGroupMessage.toList.head? = some 'a' := by decide
  exact ⟨message, details, rfl, ne_of_head? head start other⟩

theorem Condition.refusesOtherwise_of_make {path : Value} {type : ValueType} {operator : Operator}
    {value value2 : Value} {fault : Fault}
    (failed : Condition.make path type operator value value2 = .error fault) :
    fault.RefusesOtherwise := by
  have start : "operator ".toList.head? = some 'o' := by decide
  rw [Condition.make] at failed
  split at failed
  · cases failed
  · cases failed
    exact Fault.refusesOtherwise_rule
      (head?_append (head?_append (head?_append start _) _) _) (by decide)

theorem Value.refusesOtherwise_of_natural {name : String} {value : Value} {fault : Fault} {c : Char}
    (head : name.toList.head? = some c) (other : c ≠ 'a')
    (failed : value.natural name = .error fault) : fault.RefusesOtherwise := by
  rw [natural.eq_def] at failed
  split at failed
  · cases failed
  · cases failed
    exact Fault.refusesOtherwise_rule (head?_append head _) other

namespace QuantifierKind

open RuleNode in
/-- A quantifier is refused for the number that it reads. -/
theorem refusesOtherwise_of_make {kind : QuantifierKind} {path : Value} {count index : Option Int}
    {fault : Fault}
    (failed : kind.make path (if kind.readsCount then optionalNumber count else .null)
      (if kind.readsIndex then optionalNumber index else .null) = .error fault) :
    fault.RefusesOtherwise := by
  have countStart : "count".toList.head? = some 'c' := by decide
  have indexStart : "index".toList.head? = some 'i' := by decide
  cases kind with
  | any | all | none => cases failed
  | countAtLeast | countExactly | countAtMost =>
      rcases Except.bind_eq_error.mp failed with unread | ⟨_, -, impossible⟩
      · exact Value.refusesOtherwise_of_natural countStart (by decide) unread
      · cases impossible
  | index =>
      rcases Except.bind_eq_error.mp failed with impossible | ⟨_, -, rest⟩
      · cases impossible
      · rcases Except.bind_eq_error.mp rest with unread | ⟨_, -, impossible⟩
        · exact Value.refusesOtherwise_of_natural indexStart (by decide) unread
        · cases impossible

end QuantifierKind

namespace RuleNode

/-- A node whose fields cannot be read is rejected with the same message at any location. -/
theorem readNode_eq_document {location message : String} {data : Value}
    {details : List (String × Value)}
    (failed : readNode location data = .error (.document message details)) :
    message ≠ noGroupMessage ∧ ∃ rest, details = ("location", .text location) :: rest ∧
      ∀ other, readNode other data =
        .error (.document message (("location", .text other) :: rest)) := by
  have start : noGroupMessage.toList.head? = some 'a' := by decide
  cases data with
  | mapping entries =>
      simp only [readNode] at failed ⊢
      split at failed
      · rename_i kind named
        cases outcome : NodeDocument.read kind entries with
        | ok fields =>
            rw [outcome] at failed
            cases failed
        | error issues =>
            rw [outcome] at failed
            cases failed
            have invalid : "invalid ".toList.head? = some 'i' := by decide
            exact ⟨ne_of_head? (head?_append (head?_append invalid _) _) start (by decide), _, rfl,
              fun other => rfl⟩
      · rename_i unnamed
        rcases Except.bind_eq_error.mp failed with unshown | ⟨shown, found, refused⟩
        · obtain ⟨impossible, -⟩ := Value.literal_eq_error.mp unshown
          cases impossible
        · cases refused
          have unknown : "unknown rule kind ".toList.head? = some 'u' := by decide
          refine ⟨ne_of_head? (head?_append unknown _) start (by decide), _, rfl, fun other => ?_⟩
          rw [found]
          rfl
  | _ =>
      cases failed
      exact ⟨by decide, _, rfl, fun other => rfl⟩

/-- An array rule is refused for a predicate that is no group, or for its quantifier. -/
theorem arrayOver_eq_error {id location path : String} {kind : QuantifierKind}
    {count index : Option Int} {predicate : RuleNode} {fault : Fault}
    (failed : arrayOver id location path kind count index predicate = .error fault) :
    predicate.isGroup = false ∧
        fault = .document noGroupMessage [("location", .text (predicateLocation location))] ∨
      predicate.isGroup = true ∧ ∃ cause, fault = atLocation location cause ∧
        cause.RefusesOtherwise ∧ ∀ other otherId otherPredicate, otherPredicate.isGroup = true →
          arrayOver otherId other path kind count index otherPredicate =
            .error (atLocation other cause) := by
  cases predicate with
  | group predicateId logic children =>
      simp only [arrayOver] at failed
      split at failed
      · cases failed
      · rename_i cause refused
        cases failed
        refine .inr ⟨rfl, cause, rfl, QuantifierKind.refusesOtherwise_of_make refused, ?_⟩
        intro other otherId otherPredicate group
        cases otherPredicate with
        | group => simp only [arrayOver, refused]
        | _ => cases group
  | _ =>
      cases failed
      exact .inl ⟨rfl, rfl⟩

/-! ## Loading -/

theorem load_of_readNode_error {location : String} {data : Value} {fault : Fault}
    (failed : readNode location data = .error fault) (maxDepth : Int) (depth : Nat)
    (session : Session) :
    (load maxDepth (depth + 1) location data).run session = (.error fault, session) := by
  rw [load_succ, failed]
  rfl

/-- A predicate that has been loaded is loaded everywhere, and is a group everywhere or nowhere. -/
theorem exists_load_of_load {maxDepth : Int} {depth : Nat} {location : String}
    {entries : List (String × Value)} {session last : Session} {node : RuleNode}
    (loaded : (load maxDepth depth location (.mapping entries)).run session = (.ok node, last))
    (maxDepth : Int) (location : String) (session : Session) :
    ∃ other last, (load maxDepth depth location (.mapping entries)).run session = (.ok other, last) ∧
      other.isGroup = node.isGroup := by
  obtain ⟨other, last, again⟩ :=
    exists_load_of_isAcceptedWithin (isAcceptedWithin_of_load loaded) maxDepth location session
  refine ⟨other, last, again, ?_⟩
  rw [Bool.eq_iff_iff, isGroup_of_load again, isGroup_of_load loaded]

section Stops

variable {maxDepth : Int} {depth : Nat} {id location message : String}
  {entries : List (String × Value)} {details : List (String × Value)} {session last : Session}

/-- A group stops at the first of its children that is rejected. -/
theorem tellsStop_of_group {logic : Logic} {documents : List Value}
    (fields : NodeDocument.HasFields entries (.group logic documents))
    (below : ∀ {location session last data}, (load maxDepth depth location data).run session =
      (.error (.document message details), last) → data.TellsStop message depth location details)
    (stopped : (assemble maxDepth depth location id (.group logic documents)).run session =
      (.error (.document message details), last)) :
    (Value.mapping entries).TellsStop message (depth + 1) location details := by
  rcases ExceptT.bind_eq_error.mp stopped with stopped | ⟨_, _, -, impossible⟩
  · obtain ⟨before, child, after, nodes, between, rfl, loaded, here⟩ :=
      loadChildren_eq_error.mp stopped
    rw [Nat.zero_add] at here
    refine (below here).child fields fun document member => ?_
    obtain ⟨_, _, _, _, loaded⟩ := exists_load_of_loadChildren loaded document member
    exact isAcceptedWithin_of_load loaded
  · cases impossible

/-- A condition is refused at its own location. -/
theorem tellsStop_of_scalar {path : String} {type : ValueType} {operator : Operator}
    {value value2 : Value}
    (fields : NodeDocument.HasFields entries (.scalar path type operator value value2))
    (stopped : (assemble maxDepth depth location id
      (.scalar path type operator value value2)).run session =
        (.error (.document message details), last)) :
    (Value.mapping entries).TellsStop message (depth + 1) location details := by
  rw [assemble] at stopped
  split at stopped
  · cases stopped
  · rename_i cause refused
    obtain ⟨reason, rest, rfl, other⟩ := Condition.refusesOtherwise_of_make refused
    cases stopped
    refine Value.IsRefusedWithin.tellsStop other fun maxDepth location session =>
      ⟨rest, session.advance, ?_⟩
    rw [load_of_readNode (readNode_eq_ok.mpr ⟨entries, rfl, fields⟩), assemble, refused]
    rfl

/-- An array rule over a predicate that has been loaded is refused at the predicate when this is no
group, and else at its own location. -/
theorem tellsStop_of_arrayOver {path : String} {kind : QuantifierKind} {count index : Option Int}
    {members : List (String × Value)} {predicate : RuleNode}
    (fields : NodeDocument.HasFields entries (.array path kind count index (.mapping members)))
    (loaded : (load maxDepth depth (predicateLocation location) (.mapping members)).run session =
      (.ok predicate, last))
    (refused : arrayOver id location path kind count index predicate =
      .error (.document message details)) :
    (Value.mapping entries).TellsStop message (depth + 1) location details := by
  rcases arrayOver_eq_error refused with
    ⟨plain, same⟩ | ⟨group, cause, same, ⟨reason, rest, rfl, other⟩, again⟩
  · cases same
    refine ⟨[.predicate], [], ?_, .noGroup fields rfl fun maxDepth location session => ?_⟩
    · rw [predicateLocation_eq, DocumentStep.joined, DocumentStep.joined, String.append_empty]
    · rw [← plain]
      exact exists_load_of_load loaded maxDepth location session
  · cases same
    refine Value.IsRefusedWithin.tellsStop other fun maxDepth location session => ?_
    obtain ⟨predicate, last, reloaded, same⟩ := exists_load_of_load loaded maxDepth
      (predicateLocation location) session.advance
    refine ⟨rest, last, ?_⟩
    rw [load_of_readNode (readNode_eq_ok.mpr ⟨entries, rfl, fields⟩)]
    refine ExceptT.bind_eq_error.mpr (.inr ⟨predicate, last, reloaded, ?_⟩)
    rw [again location session.next predicate (same.trans group)]
    rfl

/-- An array rule stops below its predicate, or is refused over it. -/
theorem tellsStop_of_array {path : String} {kind : QuantifierKind} {count index : Option Int}
    {predicate : Value}
    (fields : NodeDocument.HasFields entries (.array path kind count index predicate))
    (below : ∀ {location session last data}, (load maxDepth depth location data).run session =
      (.error (.document message details), last) → data.TellsStop message depth location details)
    (stopped : (assemble maxDepth depth location id
      (.array path kind count index predicate)).run session =
        (.error (.document message details), last)) :
    (Value.mapping entries).TellsStop message (depth + 1) location details := by
  have mapping : ∃ members, predicate = .mapping members := by
    cases fields
    exact ⟨_, rfl⟩
  obtain ⟨members, rfl⟩ := mapping
  rcases ExceptT.bind_eq_error.mp stopped with stopped | ⟨node, between, loaded, rest⟩
  · exact (below stopped).predicate fields
  · exact tellsStop_of_arrayOver fields loaded (congrArg Prod.fst rest)

/-- Loading that rejects a document stops at the end of some steps, and these make the location
that the rejection tells. -/
theorem tellsStop_of_load {data : Value}
    (failed : (load maxDepth depth location data).run session =
      (.error (.document message details), last)) :
    data.TellsStop message depth location details := by
  -- The location stays general: below a step it is longer by what the step adds.
  induction depth generalizing location data session last with
  | zero =>
      cases failed
      exact Value.IsRefusedWithin.tellsStop (by decide) fun _ _ _ => ⟨_, _, rfl⟩
  | succ depth ih =>
      rcases load_eq_error failed with unread | ⟨document, read, stopped⟩
      · obtain ⟨other, rest, rfl, again⟩ := readNode_eq_document unread
        exact Value.IsRefusedWithin.tellsStop other fun maxDepth location session =>
          ⟨rest, _, load_of_readNode_error (again location) maxDepth depth session⟩
      · obtain ⟨entries, rfl, fields⟩ := readNode_eq_ok.mp read
        cases document with
        | group => exact tellsStop_of_group fields ih stopped
        | scalar => exact tellsStop_of_scalar fields stopped
        | array => exact tellsStop_of_array fields ih stopped

end Stops

/-- Whether a rejection of a document tells the steps to the document that is to blame.  On its own
a document has as many levels less as there are steps to it. -/
structure Locates (maxDepth : Int) (data : Value) (message : String)
    (details : List (String × Value)) (steps : List DocumentStep) (sub : Value) : Prop where
  told : details.lookup "location" = some (.text ("$" ++ DocumentStep.joined steps))
  reached : data.at? steps = some sub
  /-- All siblings before the steps are loaded on their own. -/
  siblings : ∀ before position after, steps = before ++ .child position :: after →
    ∀ earlier < position, ∃ sibling, data.at? (before ++ [.child earlier]) = some sibling ∧
      ∀ session, ∃ node last,
        (ofPortable (maxDepth - (before.length + 1)) sibling).run session = (.ok node, last)
  /-- The document is rejected on its own with the same message. -/
  refused : message ≠ noGroupMessage → ∀ session, ∃ details last,
    (ofPortable (maxDepth - steps.length) sub).run session =
        (.error (.document message details), last) ∧
      details.lookup "location" = some (.text "$")
  /-- Only a predicate is rejected because it is no group; on its own it is loaded. -/
  noGroup : message = noGroupMessage → (∃ before, steps = before ++ [.predicate]) ∧
    ∀ session, ∃ node last,
      (ofPortable (maxDepth - steps.length) sub).run session = (.ok node, last) ∧
        node.isGroup = false

/-- The rejection of a document tells where the first document stands that cannot be loaded. -/
theorem exists_locates_of_rejected {maxDepth : Int} {data : Value} {session last : Session}
    {message : String} {details : List (String × Value)}
    (rejected : (ofPortable maxDepth data).run session =
      (.error (.document message details), last)) :
    ∃ steps sub, Locates maxDepth data message details steps sub := by
  obtain ⟨steps, rest, rfl, stops⟩ := tellsStop_of_load rejected
  obtain ⟨sub, found, refused, noGroup⟩ := stops.exists_at?
  have levels (count : Nat) : (maxDepth - count).toNat = maxDepth.toNat - count := by omega
  refine ⟨steps, sub, rfl, found, ?_, fun other session => ?_, fun same => ?_⟩
  · intro before position after division earlier less
    obtain ⟨sibling, there, accepted⟩ := stops.exists_sibling division less
    rw [← levels] at accepted
    exact ⟨sibling, there, exists_load_of_isAcceptedWithin accepted _ "$"⟩
  · obtain ⟨rest, last, again⟩ := refused other (maxDepth - steps.length) "$" session
    rw [← levels] at again
    exact ⟨_, last, again, rfl⟩
  · obtain ⟨ends, loaded⟩ := noGroup same
    rw [← levels] at loaded
    exact ⟨ends, loaded _ "$"⟩

/-- A group of an empty group and an array rule over a condition. -/
def campusDocument : Value :=
  .mapping [("kind", .text "Group"), ("logic", .text "or"), ("rules", .list [
    .mapping [("kind", .text "group"), ("logic", .text "AND")],
    .mapping [("kind", .text "array"), ("path", .text "campus"), ("quantifier", .text "ANY"),
      ("predicate", .mapping [("kind", .text "scalar"), ("path", .text "name"),
        ("valueType", .text "string"), ("op", .text "exists")])]])]

theorem exists_locates_campusDocument :
    (ofPortable 3 campusDocument).run (.fresh "r") =
        (.error (.document noGroupMessage [("location", .text "$.children[1].predicate")]),
          ⟨"r", 4⟩) ∧
      ∃ steps sub, Locates 3 campusDocument noGroupMessage
        [("location", .text "$.children[1].predicate")] steps sub := by
  have rejected : (ofPortable 3 campusDocument).run (.fresh "r") =
      (.error (.document noGroupMessage [("location", .text "$.children[1].predicate")]),
        ⟨"r", 4⟩) := rfl
  exact ⟨rejected, exists_locates_of_rejected rejected⟩

end RuleNode

end Rulebook
