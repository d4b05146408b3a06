import Mathlib.Data.List.Nodup
import Rulebook.Proofs.Editing.Identities
import Rulebook.Proofs.Evaluation.Mirror
import Rulebook.Proofs.Evaluation.TraceNodes

/-!
# Findings

A trace read as a table: for each node of the rule, and each way to it through the elements of
sequences, what was found there.  In the trace of a rule with distinct identities the identity of a
node and the way to it say which finding is meant.
-/

namespace Rulebook

/-- What a trace shows at one node. -/
structure Finding where
  /-- The positions of the elements that lead to the node, from the outermost sequence on. -/
  place : List Nat
  id : String
  result : Bool
  message : Option String
  matchedIndices : Option (List Nat)

namespace Finding

/-- Which finding it is. -/
def key (finding : Finding) : List Nat × String := (finding.place, finding.id)

end Finding

namespace Trace

/-- What a trace shows at its root. -/
def finding (trace : Trace) (place : List Nat) : Finding :=
  { place, id := trace.nodeId, result := trace.result, message := trace.message
    matchedIndices := trace.matchedIndices }

mutual

/-- The findings of a trace at a place; the trace of an element is one place further down. -/
def findingsAt (place : List Nat) : Trace → List Finding
  | { kind := _, nodeId, result, message, path := _, logic := _, quantifier := _, matchedIndices,
      index, children } =>
    { place := place ++ index.toList, id := nodeId, result, message, matchedIndices } ::
      findingsOfAt (place ++ index.toList) children

/-- The findings of several traces at a place. -/
def findingsOfAt (place : List Nat) : List Trace → List Finding
  | [] => []
  | trace :: rest => findingsAt place trace ++ findingsOfAt place rest

end

/-- The findings of a trace. -/
def findings (trace : Trace) : List Finding := trace.findingsAt []

theorem findingsOfAt_eq_flatMap (place : List Nat) (traces : List Trace) :
    findingsOfAt place traces = traces.flatMap (findingsAt place) := by
  induction traces with
  | nil => rfl
  | cons trace rest ih => rw [findingsOfAt, ih, List.flatMap_cons]

theorem findingsAt_eq_cons (place : List Nat) (trace : Trace) :
    trace.findingsAt place =
      trace.finding (place ++ trace.index.toList) ::
        trace.children.flatMap (findingsAt (place ++ trace.index.toList)) := by
  cases trace
  rw [findingsAt, findingsOfAt_eq_flatMap]
  rfl

/-- The findings of a trace are at its place or further down. -/
theorem isPrefix_of_mem_findingsAt {place : List Nat} {trace : Trace} {finding : Finding}
    (member : finding ∈ trace.findingsAt place) :
    place ++ trace.index.toList <+: finding.place := by
  induction trace generalizing place with
  | node kind nodeId result message path logic quantifier matchedIndices index children ih =>
      rw [findingsAt_eq_cons] at member
      rcases List.mem_cons.mp member with rfl | below
      · exact List.prefix_refl _
      · obtain ⟨child, among, below⟩ := List.mem_flatMap.mp below
        exact (List.prefix_append _ _).trans (ih child among below)

end Trace

/-- Whether findings, which depend on the place that they are for, are told apart by their keys and
are about nodes of these identities. -/
structure IsKeyed (ids : List String) (findings : List Nat → List Finding) : Prop where
  ids : ∀ place, ∀ finding ∈ findings place, finding.id ∈ ids
  keys : ∀ place, ((findings place).map Finding.key).Nodup

namespace IsKeyed

/-- A trace is keyed when the traces below it are, for other nodes than its own. -/
theorem of_below {id : String} {ids : List String} {trace : Trace} (own : trace.nodeId = id)
    (new : id ∉ ids)
    (below : IsKeyed ids fun place => trace.children.flatMap (Trace.findingsAt place)) :
    IsKeyed (id :: ids) fun place => trace.findingsAt place := by
  subst own
  constructor
  · intro place finding member
    rw [Trace.findingsAt_eq_cons] at member
    rcases List.mem_cons.mp member with rfl | member
    · exact List.mem_cons_self
    · exact List.mem_cons_of_mem _ (below.ids _ finding member)
  · intro place
    rw [Trace.findingsAt_eq_cons, List.map_cons, List.nodup_cons]
    refine ⟨fun member => ?_, below.keys _⟩
    obtain ⟨finding, among, same⟩ := List.mem_map.mp member
    have id_eq : finding.id = trace.nodeId := congrArg Prod.snd same
    exact new (id_eq ▸ below.ids _ finding among)

theorem empty (ids : List String) : IsKeyed ids fun _ => [] :=
  ⟨fun _ _ member => (List.not_mem_nil member).elim, fun _ => List.nodup_nil⟩

/-- Findings about different nodes are keyed together. -/
theorem append {ids others : List String} {first second : List Nat → List Finding}
    (one : IsKeyed ids first) (other : IsKeyed others second) (apart : ids.Disjoint others) :
    IsKeyed (ids ++ others) fun place => first place ++ second place := by
  constructor
  · intro place finding member
    rcases List.mem_append.mp member with member | member
    · exact List.mem_append_left _ (one.ids place finding member)
    · exact List.mem_append_right _ (other.ids place finding member)
  · intro place
    rw [List.map_append, List.nodup_append']
    refine ⟨one.keys place, other.keys place, fun key here there => ?_⟩
    obtain ⟨finding, among, rfl⟩ := List.mem_map.mp here
    obtain ⟨later, also, same⟩ := List.mem_map.mp there
    have id_eq : later.id = finding.id := congrArg Prod.snd same
    exact apart (one.ids place finding among) (id_eq ▸ other.ids place later also)

/-- The traces of the children of a group are about different nodes. -/
theorem of_children {children : List RuleNode} {traces : List Trace}
    (distinct : (children.flatMap RuleNode.ids).Nodup)
    (each : List.Forall₂ (fun child trace => IsKeyed child.ids fun place =>
      Trace.findingsAt place trace) children traces) :
    IsKeyed (children.flatMap RuleNode.ids) fun place =>
      traces.flatMap (Trace.findingsAt place) := by
  induction each with
  | nil => exact empty []
  | cons here _ ih =>
      rw [List.flatMap_cons, List.nodup_append'] at distinct
      exact here.append (ih distinct.2.1) distinct.2.2

/-- The traces of elements are about the same nodes at different places. -/
theorem of_elements {ids : List String} {traces : List Trace} {positions : List Nat}
    (tagged : traces.map (·.index) = positions.map some) (apart : positions.Nodup)
    (each : ∀ trace ∈ traces, IsKeyed ids fun place => trace.findingsAt place) :
    IsKeyed ids fun place => traces.flatMap (Trace.findingsAt place) := by
  constructor
  · intro place finding member
    obtain ⟨trace, among, below⟩ := List.mem_flatMap.mp member
    exact (each trace among).ids place finding below
  · intro place
    induction traces generalizing positions with
    | nil => exact List.nodup_nil
    | cons trace traces ih =>
        obtain ⟨position, positions, rfl, here, later⟩ := List.map_eq_cons_iff.mp tagged.symm
        obtain ⟨own, rest⟩ := List.forall_mem_cons.mp each
        obtain ⟨new, apart⟩ := List.nodup_cons.mp apart
        rw [List.flatMap_cons, List.map_append, List.nodup_append']
        refine ⟨own.keys place, ih later.symm apart rest, fun key first second => new ?_⟩
        obtain ⟨finding, among, rfl⟩ := List.mem_map.mp first
        obtain ⟨other, also, same⟩ := List.mem_map.mp second
        obtain ⟨sibling, member, also⟩ := List.mem_flatMap.mp also
        have listed : sibling.index ∈ positions.map some :=
          later ▸ List.mem_map_of_mem member
        obtain ⟨position', among', tag⟩ := List.mem_map.mp listed
        have own_tag : trace.index = some position := here.symm
        have place_eq : other.place = finding.place := congrArg Prod.fst same
        -- A shared place would start with both positions, but they differ.
        have one := Trace.isPrefix_of_mem_findingsAt among
        have two := Trace.isPrefix_of_mem_findingsAt also
        rw [own_tag] at one
        rw [← tag, place_eq] at two
        have equal := (List.prefix_of_prefix_length_le one two (by simp)).eq_of_length (by simp)
        have position_eq : position = position' := by simpa using equal
        exact position_eq ▸ among'

/-- A key belongs to one finding. -/
theorem eq_of_key_eq {ids : List String} {findings : List Nat → List Finding}
    (keyed : IsKeyed ids findings) {place : List Nat} {finding other : Finding}
    (member : finding ∈ findings place) (also : other ∈ findings place)
    (same : finding.key = other.key) : finding = other :=
  List.inj_on_of_nodup_map (keyed.keys place) member also same

end IsKeyed

namespace RuleNode

variable {settings : Settings}

/-- The trace of a group, of an element or not, is keyed when the traces of its children are. -/
theorem isKeyed_of_evaluate_group {id : String} {logic : Logic} {children : List RuleNode}
    {document : Value} {trace : Trace}
    (below : ∀ child ∈ children, ∀ trace, child.ids.Nodup →
      child.evaluate settings document = .ok trace →
        IsKeyed child.ids fun place => trace.findingsAt place)
    (distinct : (group id logic children).ids.Nodup)
    (evaluated : (group id logic children).evaluate settings document = .ok trace)
    (index : Option Nat) :
    IsKeyed (group id logic children).ids fun place =>
      ({ trace with index } : Trace).findingsAt place := by
  rw [evaluate_group, Except.map_eq_ok] at evaluated
  obtain ⟨traces, evaluated, rfl⟩ := evaluated
  rw [ids_group] at distinct ⊢
  obtain ⟨new, distinct⟩ := List.nodup_cons.mp distinct
  have own (child : RuleNode) (member : child ∈ children) : child.ids.Nodup :=
    (List.nodup_flatMap.mp distinct).1 child member
  have each := (List.forall₂_and_left children _).mpr
    ⟨fun child member => member, evaluateAll_eq_ok.mp evaluated⟩
  refine .of_below rfl new (.of_children distinct ?_)
  exact each.imp fun child trace found => below child found.1 trace (own child found.1) found.2

/-- In the trace of a rule with distinct identities, findings are told apart by their keys. -/
theorem isKeyed_of_evaluate {node : RuleNode} {document : Value} {trace : Trace}
    (distinct : node.ids.Nodup) (evaluated : node.evaluate settings document = .ok trace) :
    IsKeyed node.ids fun place => trace.findingsAt place := by
  induction node generalizing document trace with
  | group id logic children ih =>
      cases trace
      exact isKeyed_of_evaluate_group (fun child member _ => ih child member) distinct evaluated _
  | scalar id condition =>
      rw [evaluate, Condition.evaluate_eq_map, Except.map_eq_ok] at evaluated
      obtain ⟨shown, -, rfl⟩ := evaluated
      rw [ids_scalar]
      exact .of_below rfl List.not_mem_nil (.empty [])
  | array id path quantifier predicateId predicateLogic predicate ih =>
      rw [ids_array] at distinct ⊢
      obtain ⟨new, distinct⟩ := List.nodup_cons.mp distinct
      rcases evaluate_array_eq_ok.mp evaluated with
        ⟨failing, -, rfl⟩ | ⟨elements, traces, -, steps, made⟩
      · exact .of_below rfl new (.empty _)
      · obtain ⟨failing, -, done⟩ := Except.bind_eq_ok.mp made
        cases done
        refine .of_below rfl new ?_
        dsimp only
        split
        · have tagged := map_index_of_showsElement (forall₂_showsElement steps)
          have apart := (quantifier.pairwise_positions elements.length).imp Nat.ne_of_lt
          refine .of_elements tagged apart fun below member => ?_
          obtain ⟨entry, -, step⟩ := exists_related_of_mem steps member
          obtain ⟨found, evaluated, rfl⟩ := evaluateElement_eq_ok.mp step
          rw [← ids_group predicateId predicateLogic predicate] at distinct ⊢
          exact isKeyed_of_evaluate_group (fun child member _ => ih child member) distinct
            evaluated _
        · exact .empty _

end RuleNode

end Rulebook
