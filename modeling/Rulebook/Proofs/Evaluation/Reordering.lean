import Mathlib.Data.List.Forall2
import Rulebook.Proofs.Editing.Moves
import Rulebook.Proofs.Evaluation.Findings

/-!
# Reordering conditions

The order of the rules in a group decides nothing but the order of its trace.  A session that moves
nodes to other places of the group that they are in keeps every verdict, every message and every
list of matching positions.
-/

namespace Rulebook

/-- Steps that can each be taken in another way, with an agreeing result, can be so together. -/
theorem exists_forall₂_of_each {α β : Type} {related other : α → β → Prop}
    {agree : β → β → Prop} {items : List α} {results : List β}
    (steps : List.Forall₂ related items results)
    (each : ∀ item ∈ items, ∀ result, related item result →
      ∃ again, other item again ∧ agree result again) :
    ∃ again, List.Forall₂ other items again ∧ List.Forall₂ agree results again := by
  induction steps with
  | nil => exact ⟨[], .nil, .nil⟩
  | @cons item result items results here _ ih =>
      obtain ⟨first, rest⟩ := List.forall_mem_cons.mp each
      obtain ⟨again, found, agrees⟩ := first result here
      obtain ⟨others, later, agreeToo⟩ := ih rest
      exact ⟨again :: others, .cons found later, .cons agrees agreeToo⟩

namespace Logic

variable {results others : List Bool}

theorem holds_of_perm (logic : Logic) (same : others.Perm results) :
    logic.holds others = logic.holds results := by
  cases logic with
  | and => rw [holds, holds, same.isEmpty_eq, same.all_eq]
  | or => rw [holds, holds, same.any_eq]

theorem failing_of_perm (logic : Logic) (same : others.Perm results) :
    logic.failing others = logic.failing results := by
  unfold failing
  rw [same.isEmpty_eq, same.length_eq, same.count_eq]

end Logic

namespace Trace

/-- Whether a second trace has the findings of a first one, in any order. -/
structure Agrees (trace again : Trace) : Prop where
  result : again.result = trace.result
  index : again.index = trace.index
  findings : ∀ place, (again.findingsAt place).Perm (trace.findingsAt place)

/-- Whether the second of two lists of traces has the results and findings of the first, in any
order. -/
structure AgreeTogether (traces again : List Trace) : Prop where
  results : (again.map (·.result)).Perm (traces.map (·.result))
  findings : ∀ place,
    (again.flatMap (findingsAt place)).Perm (traces.flatMap (findingsAt place))

theorem Agrees.refl (trace : Trace) : trace.Agrees trace :=
  ⟨rfl, rfl, fun _ => .refl _⟩

theorem Agrees.trans {first second third : Trace} (one : first.Agrees second)
    (other : second.Agrees third) : first.Agrees third :=
  ⟨other.result.trans one.result, other.index.trans one.index,
    fun place => (other.findings place).trans (one.findings place)⟩

theorem AgreeTogether.of_perm {traces again : List Trace} (same : again.Perm traces) :
    AgreeTogether traces again :=
  ⟨same.map _, fun _ => same.flatMap_right _⟩

theorem AgreeTogether.of_each {traces again : List Trace}
    (each : List.Forall₂ Agrees traces again) : AgreeTogether traces again := by
  induction each with
  | nil => exact .of_perm (.refl _)
  | cons here _ ih =>
      refine ⟨?_, fun place => (here.findings place).append (ih.findings place)⟩
      rw [List.map_cons, List.map_cons, here.result]
      exact ih.results.cons _

theorem AgreeTogether.ofGroup {traces again : List Trace} (agree : AgreeTogether traces again)
    (id : String) (logic : Logic) (index : Option Nat) :
    Agrees { Trace.ofGroup id logic traces with index }
      { Trace.ofGroup id logic again with index } := by
  have holds := logic.holds_of_perm agree.results
  have failing := logic.failing_of_perm agree.results
  refine ⟨holds, rfl, fun place => ?_⟩
  rw [findingsAt_eq_cons, findingsAt_eq_cons]
  dsimp only [finding, Trace.ofGroup]
  rw [holds, failing]
  exact (agree.findings _).cons _

theorem matchedPositions_of_agrees {elements again : List Trace}
    (each : List.Forall₂ Agrees elements again) :
    matchedPositions again = matchedPositions elements := by
  induction each with
  | nil => rfl
  | cons here _ ih =>
      unfold matchedPositions at ih ⊢
      rw [List.filter_cons, List.filter_cons, here.result]
      split
      · rw [List.filterMap_cons, List.filterMap_cons, here.index, ih]
      · exact ih

/-- The trace of an array rule agrees when the traces of the elements do, one by one. -/
theorem exists_ofElements_of_agrees {keep : Bool} {id : String} {path : Value}
    {quantifier : Quantifier} {total : Nat} {elements again : List Trace} {trace : Trace}
    (each : List.Forall₂ Agrees elements again)
    (made : ofElements keep id path quantifier total elements = .ok trace) :
    ∃ other, ofElements keep id path quantifier total again = .ok other ∧ trace.Agrees other := by
  obtain ⟨failing, explained, done⟩ := Except.bind_eq_ok.mp made
  cases done
  rw [ofElements, matchedPositions_of_agrees each]
  refine ⟨_, Except.bind_eq_ok.mpr ⟨failing, explained, rfl⟩, rfl, rfl, fun place => ?_⟩
  rw [findingsAt_eq_cons, findingsAt_eq_cons]
  refine .cons _ ?_
  dsimp only
  split
  · exact (AgreeTogether.of_each each).findings _
  · exact .refl _

end Trace

namespace RuleNode

variable {settings : Settings}

/-- Whether one rule can stand for another: it gives an agreeing trace of every document that the
other one gives a trace of. -/
def StandsFor (settings : Settings) (other node : RuleNode) : Prop :=
  ∀ document trace, node.evaluate settings document = .ok trace →
    ∃ again, other.evaluate settings document = .ok again ∧ trace.Agrees again

/-- Whether some rules can stand for others as the children of a group. -/
def StandTogether (settings : Settings) (others children : List RuleNode) : Prop :=
  ∀ document traces, evaluateAll settings children document = .ok traces →
    ∃ again, evaluateAll settings others document = .ok again ∧ Trace.AgreeTogether traces again

theorem StandsFor.refl (node : RuleNode) : StandsFor settings node node :=
  fun _ trace evaluated => ⟨trace, evaluated, .refl trace⟩

theorem StandsFor.trans {first second third : RuleNode} (one : StandsFor settings second first)
    (other : StandsFor settings third second) : StandsFor settings third first := by
  intro document trace evaluated
  obtain ⟨between, evaluated, agrees⟩ := one document trace evaluated
  obtain ⟨last, evaluated, agreesToo⟩ := other document between evaluated
  exact ⟨last, evaluated, agrees.trans agreesToo⟩

/-- The children of a group can stand in any order. -/
theorem StandTogether.of_perm {others children : List RuleNode} (same : others.Perm children) :
    StandTogether settings others children := by
  intro document traces evaluated
  obtain ⟨again, each, order⟩ := List.perm_comp_forall₂ same (evaluateAll_eq_ok.mp evaluated)
  exact ⟨again, evaluateAll_eq_ok.mpr each, .of_perm order⟩

theorem StandTogether.of_each {children : List RuleNode} {change : RuleNode → RuleNode}
    (each : ∀ child ∈ children, StandsFor settings (change child) child) :
    StandTogether settings (children.map change) children := by
  intro document traces evaluated
  obtain ⟨again, evaluatedToo, agree⟩ := exists_forall₂_of_each (evaluateAll_eq_ok.mp evaluated)
    fun child member trace found => each child member document trace found
  exact ⟨again, evaluateAll_eq_ok.mpr (List.forall₂_map_left_iff.mpr evaluatedToo), .of_each agree⟩

/-- The trace that a group makes of the traces of its children, for an element or not. -/
theorem StandTogether.exists_map {others children : List RuleNode}
    (stand : StandTogether settings others children) {id : String} {logic : Logic}
    {index : Option Nat} {document : Value} {trace : Trace}
    (evaluated : (evaluateAll settings children document).map
      (fun traces => { Trace.ofGroup id logic traces with index }) = .ok trace) :
    ∃ again, (evaluateAll settings others document).map
        (fun traces => { Trace.ofGroup id logic traces with index }) = .ok again ∧
      trace.Agrees again := by
  obtain ⟨traces, found, rfl⟩ := Except.map_eq_ok.mp evaluated
  obtain ⟨again, foundToo, agree⟩ := stand document traces found
  exact ⟨_, Except.map_eq_ok.mpr ⟨again, foundToo, rfl⟩, agree.ofGroup id logic index⟩

theorem StandTogether.group {others children : List RuleNode}
    (stand : StandTogether settings others children) (id : String) (logic : Logic) :
    StandsFor settings (group id logic others) (group id logic children) := by
  intro document trace evaluated
  rw [evaluate_group] at evaluated ⊢
  exact stand.exists_map evaluated

theorem StandTogether.array {others predicate : List RuleNode}
    (stand : StandTogether settings others predicate) (id : String) (path : Value)
    (quantifier : Quantifier) (predicateId : String) (predicateLogic : Logic) :
    StandsFor settings (array id path quantifier predicateId predicateLogic others)
      (array id path quantifier predicateId predicateLogic predicate) := by
  intro document trace evaluated
  rcases evaluate_array_eq_ok.mp evaluated with
    ⟨failing, reached, rfl⟩ | ⟨elements, traces, reached, steps, made⟩
  · exact ⟨_, evaluate_array_eq_ok.mpr (.inl ⟨failing, reached, rfl⟩), .refl _⟩
  · obtain ⟨again, stepsToo, each⟩ :=
      exists_forall₂_of_each steps fun entry _ trace step => stand.exists_map step
    obtain ⟨other, madeToo, agrees⟩ := Trace.exists_ofElements_of_agrees each made
    exact ⟨other, evaluate_array_eq_ok.mpr (.inr ⟨elements, again, reached, stepsToo, madeToo⟩),
      agrees⟩

theorem standTogether_childrenAfter {container id : String} (logic : Logic)
    {fresh children : List RuleNode}
    (each : ∀ child ∈ children,
      (∀ inner old, RuleNode.group container inner old ∈ child.nodes → fresh.Perm old) →
        StandsFor settings (child.setChildren container fresh) child)
    (own : ∀ inner old, RuleNode.group container inner old ∈
      (RuleNode.group id logic children).nodes → fresh.Perm old) :
    StandTogether settings (childrenAfter container fresh id children) children := by
  rw [childrenAfter]
  split
  · rename_i here
    subst here
    exact .of_perm (own logic children (self_mem_nodes _))
  · refine .of_each fun child member => each child member fun inner old inside => ?_
    exact own inner old (mem_nodes_group.mpr (.inr ⟨child, member, inside⟩))

/-- A tree stands for itself when the children of one group are put in another order. -/
theorem standsFor_setChildren {container : String} {fresh : List RuleNode} {node : RuleNode}
    (own : ∀ inner old, RuleNode.group container inner old ∈ node.nodes → fresh.Perm old) :
    StandsFor settings (node.setChildren container fresh) node := by
  induction node with
  | group id logic children ih =>
      rw [setChildren_group]
      exact (standTogether_childrenAfter logic ih own).group id logic
  | scalar id condition => exact .refl _
  | array id path quantifier predicateId predicateLogic predicate ih =>
      rw [setChildren_array]
      have inGroup := standTogether_childrenAfter predicateLogic ih
        fun inner old inside => own inner old (mem_nodes_array_of_predicate inside)
      exact inGroup.array id path quantifier predicateId predicateLogic

/-- A move inside the group that the node is in gives this group its children in another order,
and changes nothing else. -/
theorem exists_perm_of_move {root : RuleNode} {target destination : String} {index : Int}
    {moved : Moved} (distinct : root.ids.Nodup) (inside : root.HasChild destination target)
    (done : root.move target destination index = .ok moved) :
    ∃ logic children fresh, RuleNode.group destination logic children ∈ root.nodes ∧
      fresh.Perm children ∧ moved.root = root.setChildren destination fresh := by
  obtain ⟨rest, removal, found, -, -, -, placed⟩ := Edit.move_eq_ok done
  have apart := nodup_ids_of_detach distinct found
  have same : destination = removal.container := by
    by_contra other
    obtain ⟨childIds, lists, member⟩ := inside
    exact notMem_of_detach distinct found other lists member
  obtain ⟨_, old, located, grown⟩ := exists_setChildren_of_insertInto apart placed
  obtain ⟨whole⟩ := takesOut_of_detach distinct found
  rename_i container logic before after node
  subst same
  -- What the node is put into are the siblings that taking it out has left.
  obtain ⟨inner, left⟩ := mem_nodes_setChildren (before ++ after)
    (mem_groupIds_of_mem_nodes whole)
  cases eq_of_id_eq apart located left rfl
  refine ⟨logic, before ++ node :: after, insertAt (some moved.index) node (before ++ after),
    whole, ?_, grown.trans (setChildren_setChildren ..)⟩
  exact (insertAt_perm ..).trans List.perm_middle.symm

end RuleNode

namespace Edit

open RuleNode

/-- Whether an edit moves a node to a place of the group that it is in. -/
def IsReordering (root : RuleNode) : Edit → Prop
  | move target destination _ => root.HasChild destination target
  | insert .. | remove _ | replace .. => False

/-- Whether every edit of a session is a reordering of the tree that it meets. -/
def AllReorderings (root : RuleNode) : List Edit → Prop
  | [] => True
  | edit :: edits => edit.IsReordering root ∧ AllReorderings (edit.apply root) edits

instance (root : RuleNode) (edit : Edit) : Decidable (edit.IsReordering root) :=
  match edit with
  | move target destination _ => inferInstanceAs (Decidable (root.HasChild destination target))
  | insert .. | remove _ | replace .. => inferInstanceAs (Decidable False)

instance decidableAllReorderings (root : RuleNode) :
    (edits : List Edit) → Decidable (AllReorderings root edits)
  | [] => inferInstanceAs (Decidable True)
  | edit :: edits =>
      have := decidableAllReorderings (edit.apply root) edits
      inferInstanceAs (Decidable (edit.IsReordering root ∧ AllReorderings (edit.apply root) edits))

/-- The last tree of a session. -/
def applyAll (root : RuleNode) (edits : List Edit) : RuleNode := edits.foldl apply root

variable {settings : Settings}

/-- A reordered tree stands for the tree as it was. -/
theorem standsFor_apply {root : RuleNode} {edit : Edit} (distinct : root.ids.Nodup)
    (reorders : edit.IsReordering root) : StandsFor settings (edit.apply root) root := by
  cases edit with
  | move target destination index =>
      rw [apply]
      split
      · rename_i moved done
        obtain ⟨logic, children, fresh, located, same, changed⟩ :=
          exists_perm_of_move distinct reorders done
        rw [changed]
        refine standsFor_setChildren fun inner old also => ?_
        cases eq_of_id_eq distinct located also rfl
        exact same
      · exact .refl root
  | insert container node index => exact reorders.elim
  | remove target => exact reorders.elim
  | replace target replacement => exact reorders.elim

theorem nodup_ids_apply {root : RuleNode} {edit : Edit} (distinct : root.ids.Nodup)
    (reorders : edit.IsReordering root) : (edit.apply root).ids.Nodup := by
  cases edit with
  | move target destination index =>
      exact (nodup_ids_apply_iff distinct fun _ incoming => by cases incoming).mpr trivial
  | insert container node index => exact reorders.elim
  | remove target => exact reorders.elim
  | replace target replacement => exact reorders.elim

theorem standsFor_applyAll {root : RuleNode} {edits : List Edit} (distinct : root.ids.Nodup)
    (reorder : AllReorderings root edits) : StandsFor settings (applyAll root edits) root := by
  induction edits generalizing root with
  | nil => exact .refl root
  | cons edit edits ih =>
      obtain ⟨first, rest⟩ := reorder
      exact (standsFor_apply distinct first).trans (ih (nodup_ids_apply distinct first) rest)

/-- Reordering decides nothing.  A session of moves, each inside the group that the node is in,
leaves a tree that gives the same verdict, and whose trace shows the same at every node of the
tree and for every element: the same verdict, message and matching positions. -/
theorem evaluate_applyAll_of_reorderings (settings : Settings) (root : RuleNode)
    (edits : List Edit) (document : Value) (trace : Trace) (distinct : root.ids.Nodup)
    (reorder : AllReorderings root edits)
    (evaluated : root.evaluate settings document = .ok trace) :
    ∃ again, (applyAll root edits).evaluate settings document = .ok again ∧
      again.result = trace.result ∧ again.findings.Perm trace.findings ∧
        ∀ finding ∈ trace.findings, ∀ other ∈ again.findings, finding.key = other.key →
          other = finding := by
  obtain ⟨again, evaluatedToo, agrees⟩ :=
    standsFor_applyAll distinct reorder document trace evaluated
  have same : again.findings.Perm trace.findings := agrees.findings []
  refine ⟨again, evaluatedToo, agrees.result, same, fun finding member other also keyed => ?_⟩
  exact ((isKeyed_of_evaluate distinct evaluated).eq_of_key_eq member (same.subset also)
    keyed).symm

/-- Moves inside a predicate and inside the root. -/
def skillReordering : List Edit := [.move "r4" "r3" 5, .move "r6" "r1" 0, .move "r5" "r3" (-1)]

theorem evaluate_applyAll_skillReordering :
    (applyAll skillRule skillReordering).ids =
        ["r1", "r6", "r7", "r8", "r2", "r3", "r5", "r4"] ∧
      ∃ trace again, skillRule.evaluate {} skillProfile = .ok trace ∧
        (applyAll skillRule skillReordering).evaluate {} skillProfile = .ok again ∧
          again.result = trace.result ∧ again.findings.Perm trace.findings := by
  have finds : (skillRule.evaluate {} skillProfile).isOk = true := by decide +kernel
  obtain ⟨trace, evaluated⟩ := Except.exists_of_isOk finds
  obtain ⟨again, evaluatedToo, result, same, -⟩ := evaluate_applyAll_of_reorderings {}
    skillRule skillReordering skillProfile trace (by decide) (by decide +kernel) evaluated
  exact ⟨by decide +kernel, trace, again, evaluated, evaluatedToo, result, same⟩

end Edit

end Rulebook
