import Rulebook.Proofs.Document.Showable
import Rulebook.Proofs.Evaluation.Mirror

/-!
# Quantifiers

Array rules that differ in nothing but their quantifier put the same group to the elements of the
same sequence.  Each of them judges one and the same set of positions, those where the group holds,
and this is what makes the quantifiers express each other.  The quantifier that names a position
looks at no other element, so that its traces and positions are its own.
-/

namespace Rulebook

/-- Computations that each come to a result do so one after the other. -/
theorem Except.exists_mapM_of_each {ε α β : Type} {step : α → Except ε β} {items : List α}
    (each : ∀ item ∈ items, ∃ result, step item = .ok result) :
    ∃ results, items.mapM step = .ok results := by
  induction items with
  | nil => exact ⟨[], rfl⟩
  | cons item items ih =>
      obtain ⟨⟨result, here⟩, later⟩ := List.forall_mem_cons.mp each
      obtain ⟨results, rest⟩ := ih later
      exact ⟨result :: results, Except.mapM_eq_ok.mpr (.cons here (Except.mapM_eq_ok.mp rest))⟩

namespace Quantifier

variable {quantifier : Quantifier}

/-- All elements are asked about unless the quantifier names one. -/
theorem selected_eq_zipIdx (every : quantifier.index? = Option.none) (elements : List Value) :
    quantifier.selected elements = elements.zipIdx := by
  cases quantifier with
  | index position => cases every
  | _ => rfl

/-- Whether the number of a quantifier, when it has one, can be written. -/
def isShowable (quantifier : Quantifier) : Bool :=
  (quantifier.count?.or quantifier.index?).all fun number => (Value.int number).isShowable

theorem exists_numberText {number : Nat} (showable : (Value.int number).isShowable = true) :
    ∃ text, numberText number = .ok text := by
  rw [← Value.isSome_literal?, Option.isSome_iff_exists] at showable
  obtain ⟨text, written⟩ := showable
  exact ⟨text, by rw [numberText, Value.literal, written, Option.elim_some]⟩

/-- A quantifier whose number can be written has something to say when it fails. -/
theorem exists_failing (showable : quantifier.isShowable = true) (total matched : Nat) :
    ∃ failing, quantifier.failing total matched = .ok failing := by
  rw [isShowable, Option.all_eq_true] at showable
  cases quantifier with
  | any | all | none => exact ⟨_, rfl⟩
  | countAtLeast count | countExactly count | countAtMost count =>
      obtain ⟨text, written⟩ := exists_numberText (showable count rfl)
      rw [failing]
      exact ⟨_, Except.map_eq_ok.mpr ⟨text, written, rfl⟩⟩
  | index position =>
      rw [failing]
      split
      · exact ⟨_, rfl⟩
      · obtain ⟨text, written⟩ := exists_numberText (showable position rfl)
        exact ⟨_, Except.map_eq_ok.mpr ⟨text, written, rfl⟩⟩

end Quantifier

/-- An array rule but for its identity and its quantifier: where the sequence is, and the group that
is put to the elements. -/
structure ElementTest where
  path : Value
  predicateId : String
  predicateLogic : Logic
  predicate : List RuleNode

namespace ElementTest

/-- The array rule with an identity and a quantifier. -/
def rule (test : ElementTest) (id : String) (quantifier : Quantifier) : RuleNode :=
  .array id test.path quantifier test.predicateId test.predicateLogic test.predicate

/-- Whether the array rule with a quantifier, whatever its identity, has a trace of a document. -/
def Gives (test : ElementTest) (settings : Settings) (document : Value) (quantifier : Quantifier)
    (trace : Trace) : Prop :=
  ∃ id, (test.rule id quantifier).evaluate settings document = .ok trace

/-- Puts the group to one element, given with its position. -/
def putTo (test : ElementTest) (settings : Settings) : Value × Nat → Except Fault Trace :=
  RuleNode.evaluateElement settings test.predicateId test.predicateLogic test.predicate

/-- Whether the group holds of an element. -/
def passes (test : ElementTest) (settings : Settings) (element : Value) : Bool :=
  (RuleNode.evaluateAll settings test.predicate element).toOption.any fun children =>
    test.predicateLogic.holds (children.map (·.result))

variable {test : ElementTest} {settings : Settings} {document : Value} {quantifier : Quantifier}
  {trace : Trace} {elements : List Value}

theorem result_of_putTo {entry : Value × Nat} (step : test.putTo settings entry = .ok trace) :
    trace.result = test.passes settings entry.1 ∧ trace.index = some entry.2 := by
  obtain ⟨children, evaluated, rfl⟩ := Except.map_eq_ok.mp step
  rw [passes, evaluated]
  exact ⟨rfl, rfl⟩

/-- The group holds at the positions that are collected. -/
theorem matchedPositions_of_mapM {entries : List (Value × Nat)} {traces : List Trace}
    (steps : entries.mapM (test.putTo settings) = .ok traces) :
    Trace.matchedPositions traces =
      (entries.filter fun entry => test.passes settings entry.1).map (·.2) :=
  matchedPositions_eq ((Except.mapM_eq_ok.mp steps).imp fun _ _ => result_of_putTo)

namespace Gives

/-- Without a sequence an array rule fails, and shows no element. -/
theorem unreached (gives : test.Gives settings document quantifier trace)
    (missing : sequenceAt? test.path document = none) :
    trace.result = false ∧ trace.matchedIndices = some [] ∧ trace.children = [] := by
  obtain ⟨id, evaluated⟩ := gives
  rcases RuleNode.evaluate_array_eq_ok.mp evaluated with
    ⟨failing, -, rfl⟩ | ⟨elements, traces, reached, -⟩
  · exact ⟨rfl, rfl, rfl⟩
  · rw [sequenceAt?_of_elements reached] at missing
    cases missing

/-- With a sequence an array rule puts its group to the elements that its quantifier asks about. -/
theorem reached (gives : test.Gives settings document quantifier trace)
    (found : sequenceAt? test.path document = some elements) :
    ∃ traces, (quantifier.selected elements).mapM (test.putTo settings) = .ok traces ∧
      trace.result = quantifier.holds elements.length (Trace.matchedPositions traces).length ∧
      trace.matchedIndices = some (Trace.matchedPositions traces) ∧
      trace.children = if settings.traceElements then traces else [] := by
  obtain ⟨id, evaluated⟩ := gives
  rcases RuleNode.evaluate_array_eq_ok.mp evaluated with
    ⟨failing, reached, -⟩ | ⟨again, traces, reached, steps, made⟩
  · rw [sequenceAt?_of_failing reached] at found
    cases found
  · rw [sequenceAt?_of_elements reached] at found
    cases found
    obtain ⟨failing, -, rest⟩ := Except.bind_eq_ok.mp made
    cases rest
    exact ⟨traces, Except.mapM_eq_ok.mpr steps, rfl, rfl, rfl⟩

/-- Every quantifier judges the positions where the group holds. -/
theorem result_eq_accepts (gives : test.Gives settings document quantifier trace)
    (found : sequenceAt? test.path document = some elements) :
    trace.result = quantifier.accepts elements.length
      (positionsWhere elements (test.passes settings)) := by
  obtain ⟨traces, steps, result, -⟩ := gives.reached found
  rw [result, matchedPositions_of_mapM steps, quantifier.holds_eq_accepts]

/-- A quantifier that asks about all elements reports the positions where the group holds. -/
theorem mem_matchedIndices_iff (gives : test.Gives settings document quantifier trace)
    (every : quantifier.index? = none)
    (found : sequenceAt? test.path document = some elements) (position : Nat) :
    (∃ positions, trace.matchedIndices = some positions ∧ position ∈ positions) ↔
      position ∈ positionsWhere elements (test.passes settings) := by
  obtain ⟨traces, steps, -, matched, -⟩ := gives.reached found
  rw [Quantifier.selected_eq_zipIdx every] at steps
  rw [matched, matchedPositions_of_mapM steps, mem_positionsWhere]
  simp only [Option.some.injEq, exists_eq_left', List.mem_map, List.mem_filter, Prod.exists,
    List.mk_mem_zipIdx_iff_getElem?, exists_eq_right]

/-- Quantifiers that ask about all elements show the same of them. -/
theorem shared {other : Quantifier} {again : Trace}
    (gives : test.Gives settings document quantifier trace)
    (givesToo : test.Gives settings document other again)
    (every : quantifier.index? = none) (everyToo : other.index? = none) :
    again.matchedIndices = trace.matchedIndices ∧ again.children = trace.children := by
  cases found : sequenceAt? test.path document with
  | none =>
      obtain ⟨-, positions, children⟩ := gives.unreached found
      obtain ⟨-, positionsToo, childrenToo⟩ := givesToo.unreached found
      exact ⟨positionsToo.trans positions.symm, childrenToo.trans children.symm⟩
  | some elements =>
      obtain ⟨traces, steps, -, positions, children⟩ := gives.reached found
      obtain ⟨tracesToo, stepsToo, -, positionsToo, childrenToo⟩ := givesToo.reached found
      rw [Quantifier.selected_eq_zipIdx every] at steps
      rw [Quantifier.selected_eq_zipIdx everyToo, steps] at stepsToo
      cases stepsToo
      exact ⟨positionsToo.trans positions.symm, childrenToo.trans children.symm⟩

/-- Where the quantifier `any` comes to a verdict the others do, if their numbers can be written. -/
theorem exists_of_any (gives : test.Gives settings document .any trace)
    (showable : quantifier.isShowable = true) :
    ∃ again, test.Gives settings document quantifier again := by
  obtain ⟨id, evaluated⟩ := gives
  rcases RuleNode.evaluate_array_eq_ok.mp evaluated with
    ⟨failing, reached, -⟩ | ⟨elements, traces, reached, steps, -⟩
  · exact ⟨_, id, RuleNode.evaluate_array_eq_ok.mpr (.inl ⟨failing, reached, rfl⟩)⟩
  · have each : ∀ entry ∈ quantifier.selected elements,
        ∃ shown, test.putTo settings entry = .ok shown := by
      intro entry member
      have among : entry ∈ elements.zipIdx :=
        List.mem_zipIdx_iff_getElem?.mpr (Quantifier.getElem?_of_mem_selected member)
      obtain ⟨shown, -, step⟩ := exists_related_of_mem steps.flip among
      exact ⟨shown, step⟩
    obtain ⟨selected, done⟩ := Except.exists_mapM_of_each each
    obtain ⟨failing, explained⟩ := Quantifier.exists_failing showable elements.length
      (Trace.matchedPositions selected).length
    exact ⟨_, id, RuleNode.evaluate_array_eq_ok.mpr (.inr ⟨elements, selected, reached,
      Except.mapM_eq_ok.mp done, Except.bind_eq_ok.mpr ⟨failing, explained, rfl⟩⟩)⟩

end Gives

end ElementTest

/-! ## The laws -/

/-- How the verdicts of quantifiers on a sequence of `total` elements express each other; `gives`
tells what trace the rule with a quantifier has. -/
structure VerdictLaws (gives : Quantifier → Trace → Prop) (total : Nat) : Prop where
  none_iff : ∀ {trace other}, gives .none trace → gives .any other →
    (trace.result = true ↔ other.result = false)
  any_iff : ∀ {trace other}, gives .any trace → gives (.countAtLeast 1) other →
    (trace.result = true ↔ other.result = true)
  none_iff_countAtMost : ∀ {trace other}, gives .none trace → gives (.countAtMost 0) other →
    (trace.result = true ↔ other.result = true)
  countExactly_iff : ∀ {count trace lower upper}, gives (.countExactly count) trace →
    gives (.countAtLeast count) lower → gives (.countAtMost count) upper →
      (trace.result = true ↔ lower.result = true ∧ upper.result = true)
  countAtLeast_succ_iff : ∀ {count trace other}, gives (.countAtLeast (count + 1)) trace →
    gives (.countAtMost count) other → (trace.result = true ↔ other.result = false)
  all_iff : ∀ {trace other}, gives .all trace → gives (.countExactly total) other →
    (trace.result = true ↔ other.result = true)
  /-- A named element matches when its position is one that is reported for all elements. -/
  index_iff : ∀ {position trace other}, gives (.index position) trace → gives .any other →
    (trace.result = true ↔
      ∃ positions, other.matchedIndices = some positions ∧ position ∈ positions)

/-- What array rules have to do with each other that differ in their quantifier. -/
structure QuantifierLaws (test : ElementTest) (settings : Settings) (document : Value) : Prop where
  /-- Without a sequence no quantifier holds. -/
  unreached : sequenceAt? test.path document = none →
    ∀ quantifier trace, test.Gives settings document quantifier trace → trace.result = false
  verdicts : ∀ elements, sequenceAt? test.path document = some elements →
    VerdictLaws (test.Gives settings document) elements.length
  /-- All quantifiers but the one that names an element show the same of the elements. -/
  shared : ∀ quantifier other trace again,
    quantifier.index? = none → other.index? = none →
      test.Gives settings document quantifier trace → test.Gives settings document other again →
        again.matchedIndices = trace.matchedIndices ∧ again.children = trace.children
  /-- The other evaluations come to a trace when the one for `any` does. -/
  given : ∀ trace, test.Gives settings document .any trace →
    ∀ quantifier, quantifier.isShowable = true →
      ∃ again, test.Gives settings document quantifier again

theorem ElementTest.verdictLaws {test : ElementTest} {settings : Settings} {document : Value}
    {elements : List Value} (found : sequenceAt? test.path document = some elements) :
    VerdictLaws (test.Gives settings document) elements.length where
  none_iff gives givesToo := by
    rw [gives.result_eq_accepts found, givesToo.result_eq_accepts found]
    simp [Quantifier.accepts]
  any_iff gives givesToo := by
    rw [gives.result_eq_accepts found, givesToo.result_eq_accepts found]
    simp [Quantifier.accepts]
  none_iff_countAtMost gives givesToo := by
    rw [gives.result_eq_accepts found, givesToo.result_eq_accepts found]
    simp [Quantifier.accepts]
  countExactly_iff gives givesLower givesUpper := by
    rw [gives.result_eq_accepts found, givesLower.result_eq_accepts found,
      givesUpper.result_eq_accepts found]
    simp only [Quantifier.accepts, decide_eq_true_eq]
    omega
  countAtLeast_succ_iff gives givesToo := by
    rw [gives.result_eq_accepts found, givesToo.result_eq_accepts found]
    simp only [Quantifier.accepts, decide_eq_true_eq, decide_eq_false_iff_not]
    omega
  all_iff gives givesToo := by
    rw [gives.result_eq_accepts found, givesToo.result_eq_accepts found]
    rfl
  index_iff gives givesToo := by
    rw [gives.result_eq_accepts found, givesToo.mem_matchedIndices_iff rfl found]
    simp only [Quantifier.accepts, decide_eq_true_eq]
    refine and_iff_right_of_imp fun member => ?_
    exact Finset.mem_range.mp (Finset.mem_of_mem_filter _ member)

/-- Quantifiers over the same elements express each other, and show the same of the elements. -/
theorem quantifierLaws (test : ElementTest) (settings : Settings) (document : Value) :
    QuantifierLaws test settings document where
  unreached missing _ _ gives := (gives.unreached missing).1
  verdicts _ found := ElementTest.verdictLaws found
  shared _ _ _ _ every everyToo gives givesToo := gives.shared givesToo every everyToo
  given _ gives _ showable := gives.exists_of_any showable

/-- Asks for the levels from 4 to 9. -/
def highLevels : ElementTest where
  path := .text "levels[]"
  predicateId := "r2"
  predicateLogic := .and
  predicate :=
    [.scalar "r3"
      { path := .text "", type := .number, operator := .between, value := .int 4, value2 := .int 9
        legal := rfl }]

/-- The second and the third level are among them, the latter as a text. -/
def levels : Value :=
  .mapping [("levels", .tuple [.int 3, .int 5, .text "7"])]

/-- The rules for other quantifiers come to a verdict on the levels because the one for `any` does,
and the laws tell what it is. -/
theorem quantifierLaws_highLevels :
    ∃ (first : Trace) (traceOf : Quantifier → Trace),
      highLevels.Gives {} levels .any first ∧ first.result = true ∧
      (∀ quantifier ∈ [.none, .all, .countAtMost 0, .countExactly 3, .index 2, .index 3],
        highLevels.Gives {} levels quantifier (traceOf quantifier)) ∧
      (traceOf .none).result = false ∧
      (traceOf (.countAtMost 0)).result = false ∧
      ((traceOf .all).result = true ↔ (traceOf (.countExactly 3)).result = true) ∧
      (traceOf (.index 2)).result = true ∧
      (traceOf (.index 3)).result = false ∧
      (traceOf .all).matchedIndices = some [1, 2] := by
  have laws := quantifierLaws highLevels {} levels
  have verdicts := laws.verdicts [.int 3, .int 5, .text "7"] rfl
  have shown : ((highLevels.rule "r1" .any).evaluate {} levels).map
      (fun trace => (trace.result, trace.matchedIndices)) = .ok (true, some [1, 2]) := by
    rfl
  obtain ⟨first, evaluated, same⟩ := Except.map_eq_ok.mp shown
  obtain ⟨holds, matched⟩ := Prod.mk.inj same
  have givesAny : highLevels.Gives {} levels .any first := ⟨"r1", evaluated⟩
  have showable : ∀ quantifier ∈ [.none, .all, .countAtMost 0, .countExactly 3, .index 2,
      .index 3], Quantifier.isShowable quantifier = true := by
    decide +kernel
  have : Nonempty Trace := ⟨first⟩
  choose! traceOf gives using fun quantifier member =>
    laws.given first givesAny quantifier (showable quantifier member)
  have fails : (traceOf .none).result = false := by
    rw [← Bool.not_eq_true, verdicts.none_iff (gives .none (by decide)) givesAny, holds]
    decide
  refine ⟨first, traceOf, givesAny, holds, gives, fails, ?_, ?_, ?_, ?_, ?_⟩
  · rw [← Bool.not_eq_true,
      ← verdicts.none_iff_countAtMost (gives .none (by decide)) (gives _ (by decide)), fails]
    decide
  · exact verdicts.all_iff (gives _ (by decide)) (gives _ (by decide))
  · rw [verdicts.index_iff (gives _ (by decide)) givesAny, matched]
    exact ⟨_, rfl, by decide⟩
  · rw [← Bool.not_eq_true, verdicts.index_iff (gives _ (by decide)) givesAny, matched]
    rintro ⟨_, same, member⟩
    cases same
    exact absurd member (by decide)
  · exact (laws.shared .any .all first _ rfl rfl givesAny (gives _ (by decide))).1.trans matched

end Rulebook
