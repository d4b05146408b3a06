import Rulebook.Proofs.Evaluation.Locality
import Rulebook.Proofs.Evaluation.TraceNodes

/-!
# Views of traces by path

The views of a trace go over its conditions and array rules in walk order and note something under
the path of each, a path as often as there are nodes at it.  What a view has at a path in the end
depends on the nodes at that path alone: whether one of them held, or the first failure there that
has a message.
-/

namespace Rulebook

theorem Value.same_text {value : Value} {text : String} :
    value.same (.text text) = true ↔ value = .text text := by
  cases value <;> simp [same, sameNumber, number?]

/-- A step that never stops can be taken without looking for a problem. -/
theorem Except.foldlM_eq_ok {ε α β : Type} {step : β → α → Except ε β} (plain : β → α → β)
    {items : List α} (same : ∀ state, ∀ item ∈ items, step state item = .ok (plain state item))
    (start : β) : items.foldlM step start = .ok (items.foldl plain start) := by
  induction items generalizing start with
  | nil => rfl
  | cons item items ih =>
      obtain ⟨here, later⟩ :
          (∀ state, step state item = .ok (plain state item)) ∧
            ∀ state, ∀ other ∈ items, step state other = .ok (plain state other) :=
        ⟨fun state => same state item List.mem_cons_self,
          fun state other member => same state other (List.mem_cons_of_mem _ member)⟩
      rw [List.foldlM_cons, here, List.foldl_cons]
      exact ih later (plain start item)

namespace Trace

/-! ## Mappings from texts -/

section PathMap

variable {α : Type}

/-- Whether the paths of a mapping are texts. -/
def HasTextKeys (entries : PathMap α) : Prop :=
  ∀ entry ∈ entries, ∃ text, entry.1 = .text text

@[simp]
theorem lookupPath_nil (path : Value) : lookupPath ([] : PathMap α) path = none := rfl

theorem lookupPath_cons (key path : Value) (value : α) (entries : PathMap α) :
    lookupPath ((key, value) :: entries) path =
      if path.same key = true then some value else lookupPath entries path := by
  rw [lookupPath, List.find?_cons]
  cases path.same key <;> rfl

theorem lookupPath_append (first last : PathMap α) (path : Value) :
    lookupPath (first ++ last) path = (lookupPath first path).or (lookupPath last path) := by
  rw [lookupPath, lookupPath, lookupPath, List.find?_append]
  cases first.find? fun entry => path.same entry.1 <;> rfl

theorem isSome_lookupPath (entries : PathMap α) (path : Value) :
    (lookupPath entries path).isSome = entries.any fun entry => path.same entry.1 := by
  rw [lookupPath, Option.isSome_map, List.isSome_find?]

/-- Changing the value of a path in its place changes what is found there, if anything is. -/
theorem lookupPath_replace {entries : PathMap α} (texts : HasTextKeys entries) (text : String)
    (value : α) (path : Value) :
    lookupPath (entries.map fun entry =>
        if (Value.text text).same entry.1 then (entry.1, value) else entry) path =
      if path.same (.text text) = true then (lookupPath entries path).map fun _ => value
      else lookupPath entries path := by
  induction entries with
  | nil => simp
  | cons entry entries ih =>
      obtain ⟨⟨key, isText⟩, later⟩ := List.forall_mem_cons.mp texts
      obtain ⟨_, old⟩ := entry
      cases isText
      rw [List.map_cons, lookupPath_cons]
      by_cases own : text = key
      · subst own
        have same : (Value.text text).same (.text text) = true := Value.same_text.mpr rfl
        rw [if_pos same, lookupPath_cons, ih later]
        by_cases here : path.same (.text text) = true
        · simp [here]
        · simp [here]
      · have other : ¬ (Value.text text).same (.text key) = true := by
          simpa [Value.same_text] using own
        rw [if_neg other, lookupPath_cons, ih later]
        by_cases here : path.same (.text key) = true
        · have apart : ¬ path.same (.text text) = true := by
            rw [Value.same_text.mp here]
            simpa [Value.same_text] using Ne.symm own
          simp [here, apart]
        · simp [here]

/-- Setting a path changes what is found at that path and at no other. -/
theorem lookupPath_setPath {entries : PathMap α} (texts : HasTextKeys entries) (text : String)
    (value : α) (path : Value) :
    lookupPath (setPath entries (.text text) value) path =
      if path.same (.text text) = true then some value else lookupPath entries path := by
  rw [setPath, ← isSome_lookupPath]
  by_cases here : path.same (.text text) = true
  · have own := Value.same_text.mp here
    subst own
    cases known : lookupPath entries (.text text) with
    | none =>
        simp [known, lookupPath_append, lookupPath_cons, here]
    | some old => simp [lookupPath_replace texts, known, here]
  · rw [if_neg here]
    split
    · rw [lookupPath_replace texts, if_neg here]
    · simp [lookupPath_append, lookupPath_cons, here]

theorem HasTextKeys.setPath {entries : PathMap α} (texts : HasTextKeys entries) (text : String)
    (value : α) : HasTextKeys (setPath entries (.text text) value) := by
  rw [Trace.setPath]
  split
  · intro entry member
    obtain ⟨old, among, rfl⟩ := List.mem_map.mp member
    split <;> exact texts old among
  · intro entry member
    rcases List.mem_append.mp member with among | added
    · exact texts entry among
    · cases List.mem_singleton.mp added
      exact ⟨text, rfl⟩

/-- Dropping paths changes nothing about those that are kept. -/
theorem lookupPath_filter {entries : PathMap α} (texts : HasTextKeys entries)
    (keep : Value → Bool) (path : Value) :
    lookupPath (entries.filter fun entry => keep entry.1) path =
      if keep path = true then lookupPath entries path else none := by
  induction entries with
  | nil => simp
  | cons entry entries ih =>
      obtain ⟨⟨key, isText⟩, later⟩ := List.forall_mem_cons.mp texts
      obtain ⟨_, value⟩ := entry
      cases isText
      rw [List.filter_cons, lookupPath_cons]
      by_cases here : path.same (.text key) = true
      · have own := Value.same_text.mp here
        subst own
        cases kept : keep (.text key) with
        | true => simp [lookupPath_cons, here]
        | false => simpa [kept] using ih later
      · cases kept : keep (.text key) with
        | true => simpa [lookupPath_cons, here] using ih later
        | false => simpa [here] using ih later

end PathMap

/-! ## Views -/

section Nodes

variable {nodes : List Located}

/-- Whether the paths of some nodes are texts. -/
def HaveTextPaths (nodes : List Located) : Prop :=
  ∀ node ∈ nodes, ∃ text, node.path = .text text

/-- Notes whether a node held. -/
def noteResult (status : PathMap Bool) (node : Located) : PathMap Bool :=
  setPath status node.path ((lookupPath status node.path).getD false || node.trace.result)

/-- Notes the message of a failure, unless its path has one already. -/
def noteFailure (messages : PathMap String) (node : Located) : PathMap String :=
  match node.trace.failure? with
  | none => messages
  | some message =>
      if (lookupPath messages node.path).isSome then messages
      else messages ++ [(node.path, message)]

theorem checkKey_of_text {path : Value} (isText : ∃ text, path = .text text) :
    checkKey path = .ok () := by
  obtain ⟨text, rfl⟩ := isText
  rfl

/-- The nodes at a path, in walk order. -/
def nodesAt (path : Value) (nodes : List Located) : List Located :=
  nodes.filter fun node => path.same node.path

theorem nodesAt_cons (path : Value) (node : Located) (nodes : List Located) :
    nodesAt path (node :: nodes) =
      if path.same node.path = true then node :: nodesAt path nodes else nodesAt path nodes :=
  List.filter_cons

theorem lookupPath_noteResult {entries : PathMap Bool} (keys : HasTextKeys entries)
    {node : Located} (isText : ∃ text, node.path = .text text) (path : Value) :
    lookupPath (noteResult entries node) path =
      if path.same node.path = true then
        some ((lookupPath entries path).getD false || node.trace.result)
      else lookupPath entries path := by
  obtain ⟨text, isText⟩ := isText
  rw [noteResult, isText, lookupPath_setPath keys]
  by_cases here : path.same (.text text) = true
  · rw [if_pos here, if_pos here, Value.same_text.mp here]
  · rw [if_neg here, if_neg here]

/-- After all nodes: whether one of those at the path held, when there are any. -/
theorem lookupPath_foldl_noteResult (texts : HaveTextPaths nodes) {entries : PathMap Bool}
    (keys : HasTextKeys entries) (path : Value) :
    lookupPath (nodes.foldl noteResult entries) path =
      if nodesAt path nodes = [] then lookupPath entries path
      else some ((lookupPath entries path).getD false ||
        (nodesAt path nodes).any (·.trace.result)) := by
  induction nodes generalizing entries with
  | nil => rfl
  | cons node nodes ih =>
      obtain ⟨isText, later⟩ := List.forall_mem_cons.mp texts
      have noted : HasTextKeys (noteResult entries node) := by
        obtain ⟨text, isText⟩ := isText
        rw [noteResult, isText]
        exact keys.setPath text _
      rw [List.foldl_cons, ih later noted, lookupPath_noteResult keys isText, nodesAt_cons]
      by_cases here : path.same node.path = true
      · by_cases last : nodesAt path nodes = []
        · simp [here, last]
        · simp [here, last, Bool.or_assoc]
      · simp [here]

theorem lookupPath_noteFailure (messages : PathMap String) {node : Located}
    (isText : ∃ text, node.path = .text text) (path : Value) :
    lookupPath (noteFailure messages node) path =
      (lookupPath messages path).or
        (if path.same node.path = true then node.trace.failure? else none) := by
  obtain ⟨text, isText⟩ := isText
  rw [noteFailure, isText]
  cases node.trace.failure? with
  | none => simp
  | some message =>
      by_cases here : path.same (.text text) = true
      · rw [← Value.same_text.mp here]
        cases known : lookupPath messages path with
        | none => simp [known, lookupPath_append, lookupPath_cons]
        | some first => simp [known]
      · dsimp only
        split
        · simp
        · simp [lookupPath_append, lookupPath_cons, here]

/-- After all nodes: the first failure at the path that has a message. -/
theorem lookupPath_foldl_noteFailure (texts : HaveTextPaths nodes) (messages : PathMap String)
    (path : Value) :
    lookupPath (nodes.foldl noteFailure messages) path =
      (lookupPath messages path).or ((nodesAt path nodes).findSome? (·.trace.failure?)) := by
  induction nodes generalizing messages with
  | nil => simp [nodesAt]
  | cons node nodes ih =>
      obtain ⟨isText, later⟩ := List.forall_mem_cons.mp texts
      rw [List.foldl_cons, ih later, lookupPath_noteFailure messages isText, nodesAt_cons,
        Option.or_assoc]
      by_cases here : path.same node.path = true
      · rw [if_pos here, if_pos here, List.findSome?_cons]
        cases node.trace.failure? <;> rfl
      · simp [here]

theorem hasTextKeys_foldl_noteFailure (texts : HaveTextPaths nodes) {messages : PathMap String}
    (keys : HasTextKeys messages) : HasTextKeys (nodes.foldl noteFailure messages) := by
  induction nodes generalizing messages with
  | nil => exact keys
  | cons node nodes ih =>
      obtain ⟨isText, later⟩ := List.forall_mem_cons.mp texts
      refine ih later ?_
      rw [noteFailure]
      split
      · exact keys
      · split
        · exact keys
        · exact List.forall_mem_append.mpr ⟨keys, List.forall_mem_singleton.mpr isText⟩

end Nodes

variable {trace : Trace} {nodes : List Located}

theorem statusByPath_eq_ok (found : trace.located = .ok nodes) (texts : HaveTextPaths nodes) :
    trace.statusByPath = .ok (nodes.foldl noteResult []) := by
  rw [statusByPath, found]
  refine Except.foldlM_eq_ok noteResult (fun status node member => ?_) []
  rw [checkKey_of_text (texts node member)]
  rfl

/-- Where a view shows whether a path held, it is whether some node there did. -/
theorem lookupPath_status (texts : HaveTextPaths nodes) (path : Value) :
    lookupPath (nodes.foldl noteResult []) path =
      if nodesAt path nodes = [] then none
      else some ((nodesAt path nodes).any (·.trace.result)) := by
  rw [lookupPath_foldl_noteResult texts (List.forall_mem_nil _)]
  rfl

/-- The first failure with a message at each path, paths where some node held left out. -/
def failures (nodes : List Located) : PathMap String :=
  (nodes.foldl noteFailure []).filter fun entry =>
    !(lookupPath (nodes.foldl noteResult []) entry.1).getD false

theorem messagesByPath_eq_ok (found : trace.located = .ok nodes) (texts : HaveTextPaths nodes) :
    trace.messagesByPath = .ok (failures nodes) := by
  refine Except.bind_eq_ok.mpr ⟨nodes, found, Except.bind_eq_ok.mpr
    ⟨nodes.foldl noteFailure [], Except.foldlM_eq_ok noteFailure ?_ [], ?_⟩⟩
  · intro messages node member
    rw [noteFailure]
    cases node.trace.failure? with
    | none => rfl
    | some message =>
        rw [checkKey_of_text (texts node member)]
        rfl
  · rw [statusByPath_eq_ok found texts]
    rfl

theorem lookupPath_failures (texts : HaveTextPaths nodes) (path : Value) :
    lookupPath (failures nodes) path =
      if (nodesAt path nodes).any (·.trace.result) = true then none
      else (nodesAt path nodes).findSome? (·.trace.failure?) := by
  have keys := hasTextKeys_foldl_noteFailure texts (List.forall_mem_nil _)
  have held : (lookupPath (nodes.foldl noteResult []) path).getD false =
      (nodesAt path nodes).any (·.trace.result) := by
    rw [lookupPath_status texts]
    split
    · rename_i none_here
      rw [none_here]
      rfl
    · rfl
  rw [failures, lookupPath_filter keys fun path =>
    !(lookupPath (nodes.foldl noteResult []) path).getD false, held,
    lookupPath_foldl_noteFailure texts]
  cases (nodesAt path nodes).any (·.trace.result) <;> rfl

/-! ## Walking over a trace -/

/-- Whether a node is a group, or has a text as its path and, if it is a condition, nothing below
it. -/
def IsPlaced (trace : Trace) : Prop :=
  trace.kind = groupKind ∨
    (trace.kind = scalarKind ∧ trace.children = [] ∨ trace.kind = arrayKind) ∧
      ∃ text, trace.path = .text text

theorem locatedFrom_group {trace : Trace} (group : trace.kind = groupKind) (base : String) :
    locatedFrom base trace = locatedFromAll base trace.children := by
  cases trace
  dsimp only at group
  rw [locatedFrom, if_pos group]

theorem locatedFrom_scalar {trace : Trace} (scalar : trace.kind = scalarKind) (base : String) :
    locatedFrom base trace =
      (joinPath base trace.path).map fun path => [{ path, trace : Located }] := by
  cases trace
  dsimp only at scalar
  subst scalar
  rw [locatedFrom, if_neg (by decide), if_pos rfl]
  rfl

theorem locatedFrom_array {trace : Trace} (array : trace.kind = arrayKind) (base : String) :
    locatedFrom base trace = (joinArrayPath base trace.path >>= fun path =>
      (locatedFromAll (elementBase path) trace.children).map
        ({ path := .text path, trace : Located } :: ·)) := by
  cases trace
  dsimp only at array
  subst array
  rw [locatedFrom, if_neg (by decide), if_neg (by decide), if_pos rfl]
  rfl

/-- Whether nodes are the conditions and array rules among some traces, in their order and at
texts. -/
structure AreWalked (nodes : List Located) (traces : List Trace) : Prop where
  texts : HaveTextPaths nodes
  traces_eq : nodes.map (·.trace) = traces.filter (·.kind != groupKind)

theorem AreWalked.append {first last : List Located} {before after : List Trace}
    (walked : AreWalked first before) (also_walked : AreWalked last after) :
    AreWalked (first ++ last) (before ++ after) where
  texts := List.forall_mem_append.mpr ⟨walked.texts, also_walked.texts⟩
  traces_eq := by
    rw [List.map_append, List.filter_append, walked.traces_eq, also_walked.traces_eq]

theorem AreWalked.cons {nodes : List Located} {traces : List Trace}
    (walked : AreWalked nodes traces) {trace : Trace} (path : String)
    (other : trace.kind ≠ groupKind) :
    AreWalked ({ path := .text path, trace } :: nodes) (trace :: traces) where
  texts := List.forall_mem_cons.mpr ⟨⟨path, rfl⟩, walked.texts⟩
  traces_eq := by
    rw [List.map_cons, List.filter_cons_of_pos (by simpa using other), walked.traces_eq]

theorem exists_walk_of_locatedFromAll {base : String} {traces : List Trace}
    (each : ∀ trace ∈ traces, ∃ nodes, locatedFrom base trace = .ok nodes ∧
      AreWalked nodes trace.nodes) :
    ∃ nodes, locatedFromAll base traces = .ok nodes ∧
      AreWalked nodes (traces.flatMap Trace.nodes) := by
  induction traces with
  | nil => exact ⟨[], rfl, List.forall_mem_nil _, rfl⟩
  | cons trace rest ih =>
      obtain ⟨here, later⟩ := List.forall_mem_cons.mp each
      obtain ⟨first, found, walked⟩ := here
      obtain ⟨others, also_found, also_walked⟩ := ih later
      refine ⟨first ++ others, ?_, walked.append also_walked⟩
      rw [locatedFromAll, found, also_found]
      rfl

/-- The walk over a trace whose nodes are placed meets every condition and array rule. -/
theorem exists_walk {trace : Trace} (placed : ∀ node ∈ trace.nodes, node.IsPlaced)
    (base : String) :
    ∃ nodes, locatedFrom base trace = .ok nodes ∧ AreWalked nodes trace.nodes := by
  induction trace generalizing base with
  | node kind nodeId result message path logic quantifier matchedIndices index children ih =>
      obtain ⟨own, later⟩ := Trace.forall_mem_nodes.mp placed
      have below (base : String) :=
        exists_walk_of_locatedFromAll fun child member => ih child member (later child member) base
      rw [nodes_eq_cons]
      rcases own with group | ⟨⟨scalar, leaf⟩ | array, text, isText⟩
      · obtain ⟨nodes, found, walked⟩ := below base
        refine ⟨nodes, (locatedFrom_group group base).trans found, walked.texts, ?_⟩
        rw [List.filter_cons_of_neg (by simpa using group)]
        exact walked.traces_eq
      · obtain ⟨joined, found⟩ := exists_joinPath base text
        have leaves : AreWalked [] (children.flatMap Trace.nodes) := by
          rw [show children = [] from leaf]
          exact ⟨List.forall_mem_nil _, rfl⟩
        have other : kind ≠ groupKind := by
          rw [show kind = scalarKind from scalar]
          decide
        refine ⟨_, ?_, leaves.cons joined other⟩
        rw [locatedFrom_scalar scalar, isText, found]
        rfl
      · obtain ⟨joined, joins⟩ : ∃ joined, joinArrayPath base (.text text) = .ok joined :=
          ⟨_, joinArrayPath_text base text⟩
        obtain ⟨nodes, found, walked⟩ := below (elementBase joined)
        have other : kind ≠ groupKind := by
          rw [show kind = arrayKind from array]
          decide
        refine ⟨_, ?_, walked.cons joined other⟩
        rw [locatedFrom_array array, isText, joins]
        exact Except.map_eq_ok.mpr ⟨nodes, found, rfl⟩

end Trace

end Rulebook
