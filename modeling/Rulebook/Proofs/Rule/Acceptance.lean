import Rulebook.Proofs.Rule.Fields
import Rulebook.Proofs.Rule.Loaded

/-!
# Accepted documents

A rule document is accepted exactly when every document that is reached in it, from groups to their
children and from array rules to their predicates, can be a node and is not nested too deeply.  What
is loaded does not depend on the limit that allows it.
-/

namespace Rulebook

/-- A step from a node of a rule document to one directly below it. -/
inductive DocumentStep where
  | child (position : Nat)
  | predicate
  deriving DecidableEq, Repr

namespace Value

/-- The documents of the children of a group, under the name `children` or, when there is no such
entry, under the older one. -/
def childDocuments (entries : List (String × Value)) : List Value :=
  (((entries.lookup "children").or (entries.lookup "rules")).bind items?).getD []

/-- The document one step below a node, when the node has a kind that leads there. -/
def below? (data : Value) (step : DocumentStep) : Option Value :=
  match data with
  | mapping entries =>
      match NodeKind.ofValue? ((entries.lookup "kind").getD null), step with
      | some .group, .child position => (childDocuments entries)[position]?
      | some .array, .predicate => entries.lookup "predicate"
      | _, _ => none
  | _ => none

/-- The document at the end of some steps. -/
def at? (data : Value) : List DocumentStep → Option Value
  | [] => some data
  | step :: steps => (data.below? step).bind fun next => next.at? steps

end Value

/-- Whether the fields of a node go together: the operator belongs to the type, the predicate is a
group, and the quantifier has the number that it reads. -/
def NodeDocument.IsConsistent : NodeDocument → Prop
  | group _ _ => True
  | scalar _ type operator _ _ => type.allows operator = true
  | array _ quantifier count index predicate =>
      (∃ entries, predicate = .mapping entries ∧ NodeKind.group.IsNamedBy entries) ∧
        (quantifier.readsCount = true → ∃ number : Nat, count = some (number : Int)) ∧
          (quantifier.readsIndex = true → ∃ number : Nat, index = some (number : Int))

namespace Value

/-- Whether a document can be a node, whatever stands below it. -/
def IsAcceptable (data : Value) : Prop :=
  ∃ entries document, data = .mapping entries ∧ NodeDocument.HasFields entries document ∧
    document.IsConsistent

/-- Whether all documents that are reached can be nodes, over at most so many levels. -/
def IsAcceptedWithin (data : Value) (depth : Nat) : Prop :=
  ∀ steps sub, data.at? steps = some sub → sub.IsAcceptable ∧ steps.length < depth

theorem not_isAcceptedWithin_zero (data : Value) : ¬ data.IsAcceptedWithin 0 :=
  fun accepted => Nat.not_lt_zero _ (accepted [] data rfl).2

theorem isAcceptedWithin_succ {data : Value} {depth : Nat} :
    data.IsAcceptedWithin (depth + 1) ↔
      data.IsAcceptable ∧
        ∀ step sub, data.below? step = some sub → sub.IsAcceptedWithin depth := by
  constructor
  · intro accepted
    refine ⟨(accepted [] data rfl).1, fun step sub found steps last reached => ?_⟩
    have deeper : data.at? (step :: steps) = some last := by
      rw [at?, found]
      exact reached
    obtain ⟨acceptable, short⟩ := accepted _ _ deeper
    exact ⟨acceptable, Nat.lt_of_succ_lt_succ short⟩
  · rintro ⟨acceptable, deeper⟩ steps last reached
    cases steps with
    | nil =>
        cases reached
        exact ⟨acceptable, Nat.succ_pos depth⟩
    | cons step steps =>
        obtain ⟨sub, found, reached⟩ := Option.bind_eq_some_iff.mp reached
        obtain ⟨acceptable, short⟩ := deeper step sub found steps last reached
        exact ⟨acceptable, Nat.succ_lt_succ short⟩

theorem childDocuments_of_lists {entries : List (String × Value)} {children : List Value}
    (listed : Lists ((entries.lookup "children").or (entries.lookup "rules")) children) :
    childDocuments entries = children := by
  rw [childDocuments]
  revert listed
  cases (entries.lookup "children").or (entries.lookup "rules") with
  | none => exact Eq.symm
  | some value =>
      cases value with
      | null | list | tuple => exact Eq.symm
      | _ => exact False.elim

end Value

theorem NodeKind.IsNamedBy.unique {entries : List (String × Value)} {kind other : NodeKind}
    (named : kind.IsNamedBy entries) (also_named : other.IsNamedBy entries) : kind = other :=
  Option.some.inj ((ofValue?_lookup.mpr named).symm.trans (ofValue?_lookup.mpr also_named))

/-- The documents one step below a node whose fields are known. -/
def NodeDocument.below? (document : NodeDocument) (step : DocumentStep) : Option Value :=
  match document, step with
  | group _ children, .child position => children[position]?
  | array _ _ _ _ predicate, .predicate => some predicate
  | _, _ => none

theorem Value.below?_of_hasFields {entries : List (String × Value)} {document : NodeDocument}
    (fields : NodeDocument.HasFields entries document) (step : DocumentStep) :
    (Value.mapping entries).below? step = document.below? step := by
  cases fields with
  | group kind _ listed =>
      simp only [below?, NodeKind.ofValue?_lookup.mpr kind, childDocuments_of_lists listed]
      cases step <;> rfl
  | scalar kind =>
      simp only [below?, NodeKind.ofValue?_lookup.mpr kind]
      cases step <;> rfl
  | array kind _ _ _ _ given =>
      simp only [below?, NodeKind.ofValue?_lookup.mpr kind, given]
      cases step <;> rfl

/-! ## What is made of the fields -/

namespace QuantifierKind

open RuleNode in
/-- A quantifier is made when the number that it reads is given and natural. -/
theorem exists_make_iff (kind : QuantifierKind) (path : Value) (count index : Option Int) :
    (∃ quantifier, kind.make path (if kind.readsCount then optionalNumber count else .null)
        (if kind.readsIndex then optionalNumber index else .null) = .ok quantifier) ↔
      (kind.readsCount = true → ∃ number : Nat, count = some (number : Int)) ∧
        (kind.readsIndex = true → ∃ number : Nat, index = some (number : Int)) := by
  have natural (name : String) (number : Option Int) :
      (∃ read, (optionalNumber number).natural name = .ok read) ↔
        ∃ read : Nat, number = some (read : Int) := by
    rcases number with _ | read | read
    · simp [optionalNumber, Value.natural]
    · simp [optionalNumber, Value.natural]
    · simp [optionalNumber, Value.natural]
  cases kind <;>
    simp [make, readsCount, readsIndex, unused, Except.bind_eq_ok, natural, pure, Except.pure,
      Value.isNull]

end QuantifierKind

namespace RuleNode

/-- A condition is made when its operator belongs to its type. -/
theorem exists_make_condition_iff {path : Value} {type : ValueType} {operator : Operator}
    {value value2 : Value} :
    (∃ condition, Condition.make path type operator value value2 = .ok condition) ↔
      type.allows operator = true := by
  rw [Condition.make]
  split <;> simp [*]

/-- An array rule is made over a group when its quantifier has the number that it reads. -/
theorem exists_arrayOver_iff {id location path : String} {kind : QuantifierKind}
    {count index : Option Int} {predicate : RuleNode} :
    (∃ node, arrayOver id location path kind count index predicate = .ok node) ↔
      predicate.isGroup = true ∧
        (kind.readsCount = true → ∃ number : Nat, count = some (number : Int)) ∧
          (kind.readsIndex = true → ∃ number : Nat, index = some (number : Int)) := by
  cases predicate with
  | group predicateId logic children =>
      rw [← kind.exists_make_iff (.text path) count index]
      simp only [arrayOver, isGroup, true_and]
      split <;> simp [*]
  | scalar => simp [arrayOver, isGroup]
  | array => simp [arrayOver, isGroup]

/-! ## Loading -/

theorem exists_load_of_loadChildren {loadChild : String → Value → Issuing RuleNode}
    {location : String} {position : Nat} {documents : List Value} {session last : Session}
    {nodes : List RuleNode}
    (loaded : (loadChildren loadChild location position documents).run session =
      (.ok nodes, last)) :
    ∀ document ∈ documents, ∃ location session node last,
      (loadChild location document).run session = (.ok node, last) := by
  induction documents generalizing position session nodes last with
  | nil => simp
  | cons document documents ih =>
      obtain ⟨node, between, first, rest⟩ := ExceptT.bind_eq_ok.mp loaded
      obtain ⟨others, final, later, -⟩ := ExceptT.bind_eq_ok.mp rest
      exact List.forall_mem_cons.mpr ⟨⟨_, _, _, _, first⟩, ih later⟩

theorem exists_loadChildren {loadChild : String → Value → Issuing RuleNode}
    {documents : List Value}
    (each : ∀ document ∈ documents, ∀ location session, ∃ node last,
      (loadChild location document).run session = (.ok node, last))
    (location : String) (position : Nat) (session : Session) :
    ∃ nodes last, (loadChildren loadChild location position documents).run session =
      (.ok nodes, last) := by
  induction documents generalizing position session with
  | nil => exact ⟨[], session, rfl⟩
  | cons document documents ih =>
      obtain ⟨here, others⟩ := List.forall_mem_cons.mp each
      obtain ⟨node, between, first⟩ := here (childLocation location position) session
      obtain ⟨nodes, last, later⟩ := ih others (position + 1) between
      exact ⟨node :: nodes, last, ExceptT.bind_eq_ok.mpr
        ⟨node, between, first, ExceptT.bind_eq_ok.mpr ⟨nodes, last, later, rfl⟩⟩⟩

theorem loadChildren_of_imp {loadChild loadOther : String → Value → Issuing RuleNode}
    (imp : ∀ location data session node last,
      (loadChild location data).run session = (.ok node, last) →
        (loadOther location data).run session = (.ok node, last))
    {location : String} {position : Nat} {documents : List Value} {session last : Session}
    {nodes : List RuleNode}
    (loaded : (loadChildren loadChild location position documents).run session =
      (.ok nodes, last)) :
    (loadChildren loadOther location position documents).run session = (.ok nodes, last) := by
  induction documents generalizing position session nodes last with
  | nil => exact loaded
  | cons document documents ih =>
      obtain ⟨node, between, first, rest⟩ := ExceptT.bind_eq_ok.mp loaded
      obtain ⟨others, final, later, done⟩ := ExceptT.bind_eq_ok.mp rest
      exact ExceptT.bind_eq_ok.mpr ⟨node, between, imp _ _ _ _ _ first,
        ExceptT.bind_eq_ok.mpr ⟨others, final, ih later, done⟩⟩

/-- A document gives a group exactly when its kind says so. -/
theorem isGroup_of_load {maxDepth : Int} {depth : Nat} {location : String}
    {entries : List (String × Value)} {session last : Session} {node : RuleNode}
    (loaded : (load maxDepth depth location (.mapping entries)).run session = (.ok node, last)) :
    node.isGroup = true ↔ NodeKind.group.IsNamedBy entries := by
  cases depth with
  | zero => cases loaded
  | succ depth =>
      obtain ⟨document, read, made⟩ := load_eq_ok.mp loaded
      obtain ⟨_, ⟨⟩, fields⟩ := readNode_eq_ok.mp read
      cases fields with
      | group kind =>
          obtain ⟨children, between, -, done⟩ := ExceptT.bind_eq_ok.mp made
          cases done
          exact iff_of_true rfl kind
      | scalar kind =>
          rw [assemble] at made
          split at made
          · cases made
            refine iff_of_false (by simp [isGroup]) fun other => ?_
            cases kind.unique other
          · cases made
      | array kind =>
          obtain ⟨predicate, between, -, done⟩ := ExceptT.bind_eq_ok.mp made
          obtain ⟨quantifier, predicateId, logic, children, rfl, rfl⟩ :=
            arrayOver_eq_ok (congrArg Prod.fst done)
          refine iff_of_false (by simp [isGroup]) fun other => ?_
          cases kind.unique other

/-- Every document that is reached in a loaded one can be a node. -/
theorem isAcceptedWithin_of_load {maxDepth : Int} {depth : Nat} {location : String}
    {data : Value} {session last : Session} {node : RuleNode}
    (loaded : (load maxDepth depth location data).run session = (.ok node, last)) :
    data.IsAcceptedWithin depth := by
  induction depth generalizing location data session node last with
  | zero => cases loaded
  | succ depth ih =>
      obtain ⟨document, read, made⟩ := load_eq_ok.mp loaded
      obtain ⟨entries, rfl, fields⟩ := readNode_eq_ok.mp read
      rw [Value.isAcceptedWithin_succ]
      simp only [Value.below?_of_hasFields fields]
      cases document with
      | group logic documents =>
          obtain ⟨children, between, below, -⟩ := ExceptT.bind_eq_ok.mp made
          refine ⟨⟨_, _, rfl, fields, trivial⟩, fun step sub found => ?_⟩
          cases step with
          | child position =>
              obtain ⟨_, _, _, _, loaded⟩ :=
                exists_load_of_loadChildren below sub (List.mem_of_getElem? found)
              exact ih loaded
          | predicate => cases found
      | scalar path type operator value value2 =>
          rw [assemble] at made
          split at made
          · rename_i condition checked
            have legal := exists_make_condition_iff.mp ⟨condition, checked⟩
            refine ⟨⟨_, _, rfl, fields, legal⟩, fun step sub found => ?_⟩
            cases step <;> cases found
          · cases made
      | array path kind count index predicate =>
          obtain ⟨predicateNode, between, below, done⟩ := ExceptT.bind_eq_ok.mp made
          obtain ⟨group, numbers⟩ := exists_arrayOver_iff.mp ⟨node, congrArg Prod.fst done⟩
          have mapping : ∃ members, predicate = .mapping members := by
            cases fields
            exact ⟨_, rfl⟩
          obtain ⟨members, rfl⟩ := mapping
          refine ⟨⟨_, _, rfl, fields, ⟨_, rfl, (isGroup_of_load below).mp group⟩, numbers⟩,
            fun step sub found => ?_⟩
          cases step with
          | child position => cases found
          | predicate =>
              cases found
              exact ih below

/-- When every document that is reached can be a node, all of them are loaded, wherever and with
whatever session. -/
theorem exists_load_of_isAcceptedWithin {depth : Nat} {data : Value}
    (accepted : data.IsAcceptedWithin depth) (maxDepth : Int) (location : String)
    (session : Session) :
    ∃ node last, (load maxDepth depth location data).run session = (.ok node, last) := by
  -- Accepted within one level less is what every document directly below is.
  induction depth generalizing data location session with
  | zero => exact (data.not_isAcceptedWithin_zero accepted).elim
  | succ depth ih =>
      obtain ⟨⟨entries, document, rfl, fields, consistent⟩, deeper⟩ :=
        Value.isAcceptedWithin_succ.mp accepted
      simp only [Value.below?_of_hasFields fields] at deeper
      suffices made : ∃ node last,
          (assemble maxDepth depth location session.next document).run session.advance =
            (.ok node, last) by
        obtain ⟨node, last, made⟩ := made
        exact ⟨node, last,
          load_eq_ok.mpr ⟨document, readNode_eq_ok.mpr ⟨entries, rfl, fields⟩, made⟩⟩
      cases document with
      | group logic documents =>
          have each : ∀ document ∈ documents, ∀ location session, ∃ node last,
              (load maxDepth depth location document).run session = (.ok node, last) := by
            intro document member
            obtain ⟨position, found⟩ := List.mem_iff_getElem?.mp member
            exact ih (deeper (.child position) document found)
          obtain ⟨children, last, loaded⟩ := exists_loadChildren each location 0 session.advance
          exact ⟨_, last, ExceptT.bind_eq_ok.mpr ⟨children, last, loaded, rfl⟩⟩
      | scalar path type operator value value2 =>
          obtain ⟨condition, made⟩ := exists_make_condition_iff.mpr consistent
          rw [assemble, made]
          exact ⟨_, _, rfl⟩
      | array path kind count index predicate =>
          obtain ⟨⟨members, rfl, group⟩, numbers⟩ := consistent
          obtain ⟨predicateNode, last, loaded⟩ := ih (deeper .predicate _ rfl)
            (predicateLocation location) session.advance
          obtain ⟨node, made⟩ := exists_arrayOver_iff.mpr
            ⟨(isGroup_of_load loaded).mpr group, numbers⟩
          refine ⟨node, last, ExceptT.bind_eq_ok.mpr ⟨predicateNode, last, loaded, ?_⟩⟩
          rw [made]
          rfl

/-- A document that is loaded is loaded in the same way when it may have more levels. -/
theorem load_of_le {maxDepth larger : Int} {depth more : Nat} (le : depth ≤ more)
    {location : String} {data : Value} {session last : Session} {node : RuleNode}
    (loaded : (load maxDepth depth location data).run session = (.ok node, last)) :
    (load larger more location data).run session = (.ok node, last) := by
  induction depth generalizing more location data session node last with
  | zero => cases loaded
  | succ depth ih =>
      obtain ⟨more, rfl⟩ : ∃ below, more = below + 1 :=
        Nat.exists_eq_add_of_le' (Nat.le_trans (Nat.le_add_left 1 depth) le)
      rw [Nat.add_le_add_iff_right] at le
      obtain ⟨document, read, made⟩ := load_eq_ok.mp loaded
      refine load_eq_ok.mpr ⟨document, read, ?_⟩
      cases document with
      | group logic documents =>
          obtain ⟨children, between, below, done⟩ := ExceptT.bind_eq_ok.mp made
          have again := loadChildren_of_imp (fun _ _ _ _ _ => ih le) below
          exact ExceptT.bind_eq_ok.mpr ⟨children, between, again, done⟩
      | scalar path type operator value value2 => exact made
      | array path kind count index predicate =>
          obtain ⟨predicateNode, between, below, done⟩ := ExceptT.bind_eq_ok.mp made
          exact ExceptT.bind_eq_ok.mpr ⟨predicateNode, between, ih le below, done⟩

/-- Loading accepts exactly the documents in which every document that is reached can be a node and
has a level within the limit, and a higher limit changes nothing about an accepted document. -/
theorem exists_run_ofPortable_iff (maxDepth : Int) (data : Value) (session : Session) :
    ((∃ node last, (ofPortable maxDepth data).run session = (.ok node, last)) ↔
      ∀ steps sub, data.at? steps = some sub →
        sub.IsAcceptable ∧ (steps.length : Int) + 1 ≤ maxDepth) ∧
      ∀ node last, (ofPortable maxDepth data).run session = (.ok node, last) →
        ∀ larger, maxDepth ≤ larger →
          (ofPortable larger data).run session = (.ok node, last) := by
  have within : data.IsAcceptedWithin maxDepth.toNat ↔
      ∀ steps sub, data.at? steps = some sub →
        sub.IsAcceptable ∧ (steps.length : Int) + 1 ≤ maxDepth := by
    refine forall₃_congr fun steps sub reached => and_congr_right fun _ => ?_
    omega
  refine ⟨?_, fun node last loaded larger le => ?_⟩
  · rw [← within]
    constructor
    · rintro ⟨node, last, loaded⟩
      exact isAcceptedWithin_of_load loaded
    · exact fun accepted => exists_load_of_isAcceptedWithin accepted maxDepth "$" session
  · exact load_of_le (Int.toNat_le_toNat le) loaded

end RuleNode

end Rulebook
