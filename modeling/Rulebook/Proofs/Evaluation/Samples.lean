import Rulebook.Proofs.Condition.Seeds
import Rulebook.Proofs.Evaluation.Satisfaction
import Rulebook.Proofs.Path.Marking
import Rulebook.Proofs.Rule.Scaffolded

/-!
# Rules from samples

A rule that is seeded from a location of a sample document holds of the sample.  The marking of the
path, the making of the rule and the evaluation each walk through the sample, and their walks agree:
below the steps that lead to no sequence all three are at the same value, and at a sequence the rule
asks for some element, of which the first that is not null is one.
-/

namespace Rulebook

/-! ## Rules that hold -/

namespace RuleNode

/-- Whether a rule holds of a document whenever it can be evaluated. -/
def Accepts (settings : Settings) (rule : RuleNode) (document : Value) : Prop :=
  ∀ trace, rule.evaluate settings document = .ok trace → trace.result = true

variable {settings : Settings} {id predicateId : String} {path : Path} {document value : Value}

theorem accepts_ofSample (plain : path.IsPlain)
    (reached : path.resolve false document = .ok value) (seedable : value.IsSeedable) :
    (scalar id (.ofSample (.text path.format) value)).Accepts settings document := by
  intro trace evaluated
  obtain ⟨outcome, applied, matched⟩ :=
    Operator.relates_seed seedable .null (some settings.listDelimiter)
  have read : Path.ofValue (.text path.format) = .ok path := by
    rw [Path.ofValue_text, plain.parse_format]
  rw [evaluate, Condition.evaluate_eq_map, Except.map_eq_ok] at evaluated
  obtain ⟨shown, finding, rfl⟩ := evaluated
  rw [Condition.finding_of_concrete read plain.isConcrete reached, Except.map_eq_ok] at finding
  obtain ⟨again, same, rfl⟩ := finding
  cases applied.symm.trans same
  exact matched

theorem accepts_group {child : RuleNode} (accepts : child.Accepts settings document) :
    (group id .and [child]).Accepts settings document := by
  intro trace evaluated
  rw [evaluate_group, Except.map_eq_ok] at evaluated
  obtain ⟨traces, evaluated, rfl⟩ := evaluated
  obtain ⟨first, rest, here, nothing, rfl⟩ :=
    List.forall₂_cons_left_iff.mp (evaluateAll_eq_ok.mp evaluated)
  cases nothing
  have result : first.result = true := accepts first here
  simp [Trace.ofGroup, Logic.holds, result]

/-- Some element of a sequence is enough. -/
theorem accepts_any {predicate : List RuleNode} {elements : List Value} {element : Value}
    (found : arrayElements (.text path.format) document = .ok (.ok elements))
    (member : element ∈ elements)
    (accepts : (group predicateId .and predicate).Accepts settings element) :
    (array id (.text path.format) .any predicateId .and predicate).Accepts settings document := by
  intro trace evaluated
  rcases evaluate_array_eq_ok.mp evaluated with
    ⟨failing, missing, -⟩ | ⟨again, traces, same, steps, made⟩
  · cases found.symm.trans missing
  · cases found.symm.trans same
    obtain ⟨position, inside, rfl⟩ := List.getElem_of_mem member
    have selected : (elements[position], position) ∈ elements.zipIdx :=
      List.mk_mem_zipIdx_iff_getElem?.mpr (List.getElem?_eq_getElem inside)
    obtain ⟨element, among, step⟩ := exists_related_of_mem steps.flip selected
    obtain ⟨group, evaluated, rfl⟩ := evaluateElement_eq_ok.mp step
    have matched : position ∈ Trace.matchedPositions traces :=
      List.mem_filterMap.mpr ⟨_, List.mem_filter.mpr ⟨among, accepts group evaluated⟩, rfl⟩
    obtain ⟨failing, -, rest⟩ := Except.bind_eq_ok.mp made
    cases rest
    exact decide_eq_true (List.length_pos_of_mem matched)

/-! ## Rules for a location -/

theorem arrayElements_of_resolve {elements : List Value} (plain : path.IsPlain)
    (reached : path.resolve false document = .ok value) (sequence : value.items? = some elements) :
    arrayElements (.text path.format) document = .ok (.ok elements) := by
  have unmarked : path.dropLast.any Segment.isMarked = false := by
    rw [List.any_eq_false]
    intro segment member
    simp [(plain segment (List.dropLast_subset path member)).1]
  rw [arrayElements, Path.ofValue_text, plain.parse_format]
  change (if path.dropLast.any Segment.isMarked then _ else _) = _
  rw [unmarked, if_neg Bool.false_ne_true, reached]
  cases value <;> cases sequence <;> rfl

section Building

variable {front rest marks : Path} {segment : Segment} {sample elements current leaf : Value}
  {rule : RuleNode} {session last : Session}

/-- The rule for a marked step holds when the rule for the further steps holds of the element that
represents the sequence. -/
theorem accepts_of_marked {value : Value} {elements : List Value}
    (isMarked : segment.isMarked = true) (plain : front.IsPlain)
    (writable : segment.unmarked.IsWritable)
    (leads : front.LeadsTo sample current) (step : current.child segment.key = .ok value)
    (sequence : value.items? = some elements) (given : Value.firstNonNull elements ≠ .absent)
    (single : rest = [] → isPlainElement (Value.firstNonNull elements) = true)
    (inside : ∀ child between after,
      Builds [] rest (Value.firstNonNull elements) between child after →
        child.Accepts settings (Value.firstNonNull elements))
    (builds : Builds front (segment :: rest) sample session rule last) :
    rule.Accepts settings sample := by
  have plain := plain.append writable
  have reached := leads.resolve_step step
  have element : representative value = Value.firstNonNull elements := by
    rw [representative, sequence]
  cases builds with
  | unmarked unmarked further => cases isMarked.symm.trans unmarked
  | within isMarked found plainElement further =>
      rw [plain.parse_format, reached] at found
      cases found
      rw [element] at further
      exact accepts_any (arrayElements_of_resolve plain (reached false) sequence)
        (Value.mem_of_firstNonNull given) (accepts_group (inside _ _ _ further))
  | bare isMarked found isBare =>
      rw [plain.parse_format, reached] at found
      cases found
      have plainElement := single rfl
      rw [isPlainElement_eq_not, ← element, isBare] at plainElement
      cases plainElement

/-- The induction on the path: `front` holds the steps behind the last sequence, which have led
from the sample, or from an element of it, to the current value. -/
theorem accepts_scaffoldFrom {path : Path}
    (writable : ∀ segment ∈ path, segment.unmarked.IsWritable) (plain : front.IsPlain)
    (leads : front.LeadsTo sample current) (marked : path.marked current = .ok marks)
    (walked : path.leaf current = .ok leaf)
    (single : marks.isMarkedAtEnd = true → isPlainElement leaf = true)
    (seedable : leaf.IsSeedable)
    (built : (scaffoldFrom front marks sample).run session = (.ok rule, last)) :
    rule.Accepts settings sample := by
  replace built := builds_of_scaffoldFrom built
  induction path generalizing front marks sample current session last rule with
  | nil =>
      cases marked
      cases walked
      have reached (representative : Bool) : front.resolve representative sample = .ok leaf := by
        have leads := leads representative []
        rwa [List.append_nil] at leads
      obtain ⟨found⟩ := built
      rw [plain.parse_format, reached] at found
      cases found
      exact accepts_ofSample plain (reached false) seedable
  | cons segment path ih =>
      obtain ⟨here, later⟩ := List.forall_mem_cons.mp writable
      obtain ⟨value, rest, step, further, rfl⟩ := Path.marked_cons_eq_ok.mp marked
      rw [Path.leaf_cons_of_child step] at walked
      have singleLater (atEnd : rest.isMarkedAtEnd = true) : isPlainElement leaf = true :=
        single (Path.isMarkedAtEnd_cons _ atEnd)
      cases items : value.items? with
      | none =>
          rw [items] at built
          rw [Path.representativeOf_of_single items] at further walked
          cases built with
          | unmarked unmarked below =>
              exact ih later (plain.append here) (leads.step step items) further walked singleLater
                below
          | within isMarked | bare isMarked => cases isMarked
      | some elements =>
          rw [items] at built single
          rw [Path.representativeOf_of_sequence items] at further walked
          have atEnd (nothing : rest = []) :
              isPlainElement (Value.firstNonNull elements) = true := by
            subst nothing
            rw [Path.eq_leaf_of_marked_nil further walked]
            exact single rfl
          have isMarked : (Segment.mk segment.key true).isMarked = true := rfl
          -- The element is a sample of its own, in which no step has been taken.
          exact accepts_of_marked isMarked plain here leads step items
            (Path.ne_absent_of_leaf walked seedable.present) atEnd
            (fun child between after made =>
              ih later Path.isPlain_nil (.refl _) further walked singleLater made) built

/-- A rule that is seeded from a sample holds of the sample, whenever it can be evaluated.  The
value at the end of the walk has to be one that the condition it suggests can hold of, and neither
an object nor a sequence when the last step leads to a sequence. -/
theorem result_of_scaffold {raw : String} (plain : (Path.parse raw).HasPlainKeys)
    (marked : (Path.parse raw).marked sample = .ok marks) :
    ∃ leaf, (Path.parse raw).leaf sample = .ok leaf ∧
      ((marks.isMarkedAtEnd = true → isPlainElement leaf = true) → leaf.IsSeedable →
        ∀ session last rule settings trace,
          (scaffold (Path.parse marks.format) sample).run session = (.ok rule, last) →
            rule.evaluate settings sample = .ok trace → trace.result = true) := by
  obtain ⟨leaf, walked⟩ := Path.exists_leaf_of_marked marked
  refine ⟨leaf, walked, fun single seedable session last rule settings trace built => ?_⟩
  have writable : ∀ segment ∈ Path.parse raw, segment.unmarked.IsWritable := by
    intro segment member
    have noDot : '.' ∉ segment.key.toList := Path.not_mem_key_of_mem_parse member
    exact ⟨noDot, fun _ => plain segment member⟩
  rw [Path.parse_format (Path.isWritable_of_marked writable marked)] at built
  exact accepts_scaffoldFrom writable Path.isPlain_nil (.refl sample) marked walked single seedable
    built trace

end Building

/-- A profile with a point in time in a sequence of sequences, behind nulls. -/
def termsProfile : Value :=
  .mapping [("cursus_users", .list [.null, .mapping
    [("terms", .tuple [.null, .list [.list [.null, .text "2021-09-01T08:00:00.000Z"]]])]])]

/-- The way to the points in time of the profile, as the profile marks it. -/
def termsPath : Path := [⟨"cursus_users", true⟩, ⟨"terms", true⟩, ⟨"0", true⟩]

theorem isSeedable_term : (Value.text "2021-09-01T08:00:00.000Z").IsSeedable where
  present := rfl
  readable := nofun
  later := by
    intro _
    have dates : ((Value.text "2021-09-01T08:00:00.000Z").toMoment >>= fun moment =>
        (Value.text "2021-09-01T08:00:00.000Z").seed.toMoment.map fun seeded =>
          decide (seeded.instant < moment.instant)) = .ok true := by
      rfl
    obtain ⟨moment, read, rest⟩ := Except.bind_eq_ok.mp dates
    obtain ⟨seeded, readSeed, before⟩ := Except.map_eq_ok.mp rest
    exact ⟨moment, seeded, read, readSeed, of_decide_eq_true before⟩

/-- The path reaches the point in time, so that the rule for it holds of the profile. -/
theorem result_of_scaffold_termsProfile :
    ∃ rule last trace, (scaffold (Path.parse termsPath.format) termsProfile).run
        (.fresh Session.defaultStem) = (.ok rule, last) ∧
      rule.evaluate {} termsProfile = .ok trace ∧ trace.result = true := by
  have plain : (Path.parse "cursus_users[].terms.0").HasPlainKeys := by
    unfold Path.HasPlainKeys Segment.HasPlainKey
    decide +kernel
  have marked : (Path.parse "cursus_users[].terms.0").marked termsProfile = .ok termsPath := by
    rfl
  have walked : (Path.parse "cursus_users[].terms.0").leaf termsProfile =
      .ok (.text "2021-09-01T08:00:00.000Z") := by
    rfl
  have finds : ((scaffold (Path.parse termsPath.format) termsProfile).run
      (.fresh Session.defaultStem)).1.toOption.any
        (fun rule => (rule.evaluate {} termsProfile).isOk) = true := by
    decide +kernel
  rcases built : (scaffold (Path.parse termsPath.format) termsProfile).run
      (.fresh Session.defaultStem) with ⟨fault | rule, last⟩
  · rw [built] at finds
    cases finds
  · rw [built] at finds
    obtain ⟨trace, evaluated⟩ := Except.exists_of_isOk finds
    obtain ⟨leaf, reached, accepts⟩ := result_of_scaffold plain marked
    cases walked.symm.trans reached
    exact ⟨rule, last, trace, rfl, evaluated,
      accepts (fun _ => rfl) isSeedable_term _ _ _ _ _ built evaluated⟩

end RuleNode

end Rulebook
