import Mathlib.Data.List.Nodup
import Rulebook.Proofs.Evaluation.Explanations

/-!
# Highlighting

The paths that a rule reads are collected from the rule, and what is shown at them from a trace.
Both walks count paths from the top of the document on their own: an array rule occurs once in the
rule, and what is inside it as often in the trace as there are elements, or not at all.  The walks
agree in the paths they reach.
-/

namespace Rulebook

/-- The text of a path; a value that is no text counts as the empty path. -/
def Value.pathText : Value → String
  | .text path => path
  | _ => ""

@[simp]
theorem Value.pathText_text (path : String) : (Value.text path).pathText = path := rfl

theorem Value.text_same {text : String} {value : Value} :
    (Value.text text).same value = true ↔ value = .text text := by
  cases value with
  | text other => rw [same, beq_iff_eq, Value.text.injEq, eq_comm]
  | _ => simp [same]

/-- A path counted from the top of the document instead of a base. -/
def absolutePath (base path : String) : String :=
  if base = "" then path else if path = "" then base else base ++ "." ++ path

/-- The path of a sequence, which has no marks of its own. -/
def sequencePath (base path : String) : String :=
  absolutePath base (Path.parse path).stripped.format

@[simp]
theorem absolutePath_top (path : String) : absolutePath "" path = path := if_pos rfl

theorem joinPath_text (base path : String) :
    joinPath base (.text path) = .ok (.text (absolutePath base path)) := by
  by_cases top : base = ""
  · rw [top, joinPath_empty, absolutePath_top]
  · by_cases blank : path = ""
    · simp [joinPath, absolutePath, Value.isTruthy, top, blank]
    · have given : (Value.text path).isTruthy = true := by simp [Value.isTruthy, blank]
      rw [joinPath, if_neg (by simpa using top), if_pos given, absolutePath, if_neg top,
        if_neg blank]
      rfl

theorem joinArrayPath_eq_sequencePath (base path : String) :
    joinArrayPath base (.text path) = .ok (sequencePath base path) := by
  rw [joinArrayPath_text, sequencePath, absolutePath]
  simp only [String.isEmpty_iff]

/-! ## Each path once -/

/-- Paths as they are reported: each once, where it occurs first. -/
def reported (paths : List String) : List Value := paths.eraseDups.map .text

theorem mem_reported {paths : List String} {path : String} :
    .text path ∈ reported paths ↔ path ∈ paths := by
  simp [reported]

theorem eraseDups_concat (front : List String) (path : String) :
    (front ++ [path]).eraseDups =
      if path ∈ front then front.eraseDups else front.eraseDups ++ [path] := by
  rw [List.eraseDups_append, List.cons_removeAll]
  by_cases known : path ∈ front <;> simp [known, List.removeAll, List.eraseDups_cons]

theorem nodup_reported (paths : List String) : (reported paths).Nodup := by
  refine List.Nodup.map (fun _ _ same => Value.text.inj same) ?_
  induction paths using List.reverseRecOn with
  | nil => exact List.nodup_nil
  | append_singleton front path ih =>
      rw [eraseDups_concat]
      split
      · exact ih
      · rename_i fresh
        refine List.nodup_append.mpr ⟨ih, List.nodup_singleton path, fun other known last => ?_⟩
        rintro last rfl
        exact fresh (List.mem_eraseDups.mp (List.mem_singleton.mp last ▸ known))

/-- Paths that do not occur twice are reported as they are. -/
theorem reported_of_nodup {paths : List String} (once : paths.Nodup) :
    reported paths = paths.map .text := by
  refine congrArg (List.map Value.text) ?_
  induction paths using List.reverseRecOn with
  | nil => rfl
  | append_singleton front path ih =>
      obtain ⟨here, -, apart⟩ := List.nodup_append.mp once
      have fresh : path ∉ front := fun known => apart path known path (List.mem_singleton_self _) rfl
      rw [eraseDups_concat, if_neg fresh, ih here]

/-- Collecting one more path reports it unless it has been. -/
theorem addPath_reported (front : List String) (path : String) :
    addPath (reported front) (.text path) = reported (front ++ [path]) := by
  have known : (reported front).any (Value.text path).same = decide (path ∈ front) := by
    rw [Bool.eq_iff_iff, decide_eq_true_iff, List.any_eq_true, ← mem_reported]
    constructor
    · rintro ⟨other, member, same⟩
      obtain ⟨text, -, rfl⟩ := List.mem_map.mp member
      rw [Value.same_text.mp same]
      exact member
    · exact fun member => ⟨_, member, Value.same_text.mpr rfl⟩
  rw [addPath, known, reported, reported, eraseDups_concat]
  by_cases here : path ∈ front <;> simp [here]

/-! ## The paths of a rule -/

namespace RuleNode

mutual

/-- The paths of the conditions and array rules of a rule in pre-order, each as often as it
occurs. -/
def pathsFrom (base : String) : RuleNode → List String
  | group _ _ children => pathsFromAll base children
  | scalar _ condition => [absolutePath base condition.path.pathText]
  | array _ path _ _ _ predicate =>
      sequencePath base path.pathText ::
        pathsFromAll (elementBase (sequencePath base path.pathText)) predicate

/-- The paths of several rules, one rule after the other. -/
def pathsFromAll (base : String) : List RuleNode → List String
  | [] => []
  | node :: rest => pathsFrom base node ++ pathsFromAll base rest

end

/-- The paths of the conditions and array rules that are in no array rule. -/
inductive HasOuterPath : RuleNode → String → Prop
  | condition {id : String} {condition : Condition} :
      HasOuterPath (scalar id condition) condition.path.pathText
  | sequence {id : String} {path : Value} {quantifier : Quantifier} {predicateId : String}
      {predicateLogic : Logic} {predicate : List RuleNode} :
      HasOuterPath (array id path quantifier predicateId predicateLogic predicate)
        (sequencePath "" path.pathText)
  | child {id : String} {logic : Logic} {children : List RuleNode} {child : RuleNode}
      {path : String} (member : child ∈ children) (outer : HasOuterPath child path) :
      HasOuterPath (group id logic children) path

theorem pathsFromAll_eq_flatMap (base : String) (children : List RuleNode) :
    pathsFromAll base children = children.flatMap (pathsFrom base) := by
  induction children with
  | nil => rfl
  | cons child rest ih => rw [pathsFromAll, ih, List.flatMap_cons]

theorem usedPathsFromAll_reported {base : String} {children : List RuleNode}
    (each : ∀ child ∈ children, ∀ front,
      usedPathsFrom base (reported front) child = .ok (reported (front ++ child.pathsFrom base)))
    (front : List String) :
    usedPathsFromAll base (reported front) children =
      .ok (reported (front ++ pathsFromAll base children)) := by
  induction children generalizing front with
  | nil =>
      rw [usedPathsFromAll, pathsFromAll, List.append_nil]
      rfl
  | cons child rest ih =>
      obtain ⟨here, later⟩ := List.forall_mem_cons.mp each
      refine usedPathsFromAll_cons_eq_ok.mpr ⟨_, here front, ?_⟩
      rw [ih later, pathsFromAll, List.append_assoc]

/-- Collecting the paths of a rule reports them behind those of before. -/
theorem usedPathsFrom_reported {node : RuleNode} (texts : node.HasTextPaths) (base : String)
    (front : List String) :
    usedPathsFrom base (reported front) node =
      .ok (reported (front ++ node.pathsFrom base)) := by
  induction node generalizing base front with
  | group id logic children ih =>
      exact usedPathsFromAll_reported (fun child member =>
        ih child member (texts.of_mem (mem_nodes_of_mem_children member)) base) front
  | scalar id condition =>
      obtain ⟨text, isText⟩ := texts _ (self_mem_nodes _) condition.path rfl
      rw [usedPathsFrom, pathsFrom, isText, joinPath_text, Value.pathText_text]
      exact congrArg Except.ok (addPath_reported front _)
  | array id path quantifier predicateId predicateLogic predicate ih =>
      obtain ⟨text, rfl⟩ := texts _ (self_mem_nodes _) path rfl
      refine usedPathsFrom_array_eq_ok.mpr ⟨_, joinArrayPath_eq_sequencePath base text, ?_⟩
      rw [addPath_reported, usedPathsFromAll_reported fun child member =>
        ih child member (texts.of_mem (mem_nodes_of_mem_predicate member)) _, pathsFrom,
        Value.pathText_text, List.append_assoc, List.singleton_append]

theorem usedPaths_eq_reported {node : RuleNode} (texts : node.HasTextPaths) :
    node.usedPaths = .ok (reported (node.pathsFrom "")) :=
  usedPathsFrom_reported texts "" []

end RuleNode

/-! ## The paths of a trace -/

namespace Trace

/-- A condition or array rule in a trace, and its path from the top of the document. -/
inductive IsAt : String → Trace → String → Trace → Prop
  | condition {base : String} {trace : Trace} (scalar : trace.kind = scalarKind) :
      IsAt base trace (absolutePath base trace.path.pathText) trace
  | sequence {base : String} {trace : Trace} (array : trace.kind = arrayKind) :
      IsAt base trace (sequencePath base trace.path.pathText) trace
  | child {base path : String} {trace child node : Trace} (group : trace.kind = groupKind)
      (member : child ∈ trace.children) (inside : IsAt base child path node) :
      IsAt base trace path node
  | element {base path : String} {trace element node : Trace} (array : trace.kind = arrayKind)
      (member : element ∈ trace.children)
      (inside : IsAt (elementBase (sequencePath base trace.path.pathText)) element path node) :
      IsAt base trace path node

section IsAt

variable {base path : String} {trace node : Trace}

theorem isAt_condition (scalar : trace.kind = scalarKind) :
    IsAt base trace path node ↔
      path = absolutePath base trace.path.pathText ∧ node = trace := by
  constructor
  · rintro (- | array | group | array)
    · exact ⟨rfl, rfl⟩
    · exact absurd (scalar.symm.trans array) (by decide)
    · exact absurd (scalar.symm.trans group) (by decide)
    · exact absurd (scalar.symm.trans array) (by decide)
  · rintro ⟨rfl, rfl⟩
    exact .condition scalar

theorem isAt_group (group : trace.kind = groupKind) :
    IsAt base trace path node ↔ ∃ child ∈ trace.children, IsAt base child path node := by
  constructor
  · rintro (scalar | array | ⟨-, member, inside⟩ | array)
    · exact absurd (group.symm.trans scalar) (by decide)
    · exact absurd (group.symm.trans array) (by decide)
    · exact ⟨_, member, inside⟩
    · exact absurd (group.symm.trans array) (by decide)
  · rintro ⟨child, member, inside⟩
    exact .child group member inside

theorem isAt_sequence (array : trace.kind = arrayKind) :
    IsAt base trace path node ↔
      (path = sequencePath base trace.path.pathText ∧ node = trace) ∨
        ∃ element ∈ trace.children,
          IsAt (elementBase (sequencePath base trace.path.pathText)) element path node := by
  constructor
  · rintro (scalar | - | group | ⟨-, member, inside⟩)
    · exact absurd (array.symm.trans scalar) (by decide)
    · exact .inl ⟨rfl, rfl⟩
    · exact absurd (array.symm.trans group) (by decide)
    · exact .inr ⟨_, member, inside⟩
  · rintro (⟨rfl, rfl⟩ | ⟨element, member, inside⟩)
    · exact .sequence array
    · exact .element array member inside

theorem mem_locatedFromAll {traces : List Trace} {nodes : List Located}
    (each : ∀ trace ∈ traces, ∀ own, locatedFrom base trace = .ok own →
      ((⟨.text path, node⟩ : Located) ∈ own ↔ IsAt base trace path node))
    (found : locatedFromAll base traces = .ok nodes) :
    (⟨.text path, node⟩ : Located) ∈ nodes ↔ ∃ trace ∈ traces, IsAt base trace path node := by
  induction traces generalizing nodes with
  | nil =>
      cases found
      simp
  | cons trace rest ih =>
      obtain ⟨here, later⟩ := List.forall_mem_cons.mp each
      obtain ⟨first, one, found⟩ := Except.bind_eq_ok.mp found
      obtain ⟨others, further, made⟩ := Except.bind_eq_ok.mp found
      cases made
      rw [List.mem_append, here first one, ih later further]
      simp only [List.mem_cons, exists_eq_or_imp]

/-- The walk over a trace whose nodes are placed meets the conditions and array rules at their
paths. -/
theorem mem_located_iff_isAt (placed : ∀ node ∈ trace.nodes, node.IsPlaced)
    {nodes : List Located} (found : locatedFrom base trace = .ok nodes) :
    (⟨.text path, node⟩ : Located) ∈ nodes ↔ IsAt base trace path node := by
  induction trace generalizing base nodes with
  | node kind nodeId result message own logic quantifier matchedIndices index children ih =>
      obtain ⟨here, later⟩ := forall_mem_nodes.mp placed
      rcases here with group | ⟨⟨scalar, -⟩ | array, text, isText⟩
      · rw [locatedFrom_group group] at found
        rw [isAt_group group]
        exact mem_locatedFromAll (fun child member _ => ih child member (later child member)) found
      · rw [locatedFrom_scalar scalar, isText, joinPath_text] at found
        cases found
        rw [isAt_condition scalar, isText, List.mem_singleton, Located.mk.injEq, Value.text.injEq]
        rfl
      · rw [locatedFrom_array array, isText, joinArrayPath_eq_sequencePath] at found
        obtain ⟨inside, below, rfl⟩ := Except.map_eq_ok.mp found
        rw [isAt_sequence array, isText, List.mem_cons, Located.mk.injEq, Value.text.injEq]
        exact or_congr_right (mem_locatedFromAll
          (fun child member _ => ih child member (later child member)) below)

end IsAt

/-! ## Keys of views -/

section Keys

variable {α : Type}

/-- The paths of a mapping. -/
def keys (entries : PathMap α) : List Value := entries.map (·.1)

theorem keys_concat (entries : PathMap α) (path : Value) (value : α) :
    keys (entries ++ [(path, value)]) = keys entries ++ [path] := List.map_append

theorem mem_keys_of_lookupPath {entries : PathMap α} {path : String} {value : α}
    (known : lookupPath entries (.text path) = some value) : .text path ∈ keys entries := by
  obtain ⟨entry, found, -⟩ := Option.map_eq_some_iff.mp known
  have key : entry.1 = .text path := Value.text_same.mp (by simpa using List.find?_some found)
  exact key ▸ List.mem_map_of_mem (List.mem_of_find?_eq_some found)

theorem keys_setPath_subset (entries : PathMap α) (path : Value) (value : α) :
    keys (setPath entries path value) ⊆ keys entries ++ [path] := by
  rw [setPath]
  split
  · refine List.Subset.trans (fun key member => ?_) (List.subset_append_left _ _)
    obtain ⟨changed, among, rfl⟩ := List.mem_map.mp member
    obtain ⟨entry, old, rfl⟩ := List.mem_map.mp among
    split <;> exact List.mem_map.mpr ⟨entry, old, rfl⟩
  · rw [keys_concat]
    exact List.Subset.refl _

/-- A view that is made node by node has no keys but the paths of the nodes. -/
theorem keys_foldl_subset {step : PathMap α → Located → PathMap α}
    (grows : ∀ entries node, keys (step entries node) ⊆ keys entries ++ [node.path])
    (nodes : List Located) : keys (nodes.foldl step []) ⊆ nodes.map (·.path) := by
  have start : keys ([] : PathMap α) ⊆ nodes.map (·.path) := List.nil_subset _
  refine List.foldlRecOn (motive := (keys · ⊆ nodes.map (·.path))) nodes step start ?_
  intro entries inside node member
  refine List.Subset.trans (grows entries node) (List.append_subset.mpr ⟨inside, ?_⟩)
  exact List.cons_subset.mpr ⟨List.mem_map_of_mem member, List.nil_subset _⟩

end Keys

theorem keys_noteFailure_subset (messages : PathMap String) (node : Located) :
    keys (noteFailure messages node) ⊆ keys messages ++ [node.path] := by
  rw [noteFailure]
  split
  · exact List.subset_append_left _ _
  · split
    · exact List.subset_append_left _ _
    · rw [keys_concat]
      exact List.Subset.refl _

/-- Notes the positions that matched at an array rule. -/
def noteMatches (found : PathMap (List Nat)) (node : Located) : PathMap (List Nat) :=
  setPath found node.path
    ((lookupPath found node.path).getD [] ++ node.trace.matchedIndices.getD [])

theorem matchedIndicesByPath_eq_ok {trace : Trace} {nodes : List Located}
    (found : trace.located = .ok nodes) :
    trace.matchedIndicesByPath =
      .ok ((nodes.filter fun node => node.trace.kind == arrayKind).foldl noteMatches []) := by
  rw [matchedIndicesByPath, found]
  rfl

section Status

variable {nodes : List Located} {path : String}

theorem mem_nodesAt_text {node : Located} :
    node ∈ nodesAt (.text path) nodes ↔ node ∈ nodes ∧ node.path = .text path := by
  rw [nodesAt, List.mem_filter, Value.text_same]

theorem mem_keys_status (texts : HaveTextPaths nodes) {trace : Trace}
    (member : (⟨.text path, trace⟩ : Located) ∈ nodes) :
    .text path ∈ keys (nodes.foldl noteResult []) := by
  have among := mem_nodesAt_text.mpr ⟨member, rfl⟩
  have shown := lookupPath_status texts (.text path)
  rw [if_neg (List.ne_nil_of_mem among)] at shown
  exact mem_keys_of_lookupPath shown

/-- A path is shown to hold when some node at it held. -/
theorem lookupPath_status_eq_true (texts : HaveTextPaths nodes) :
    lookupPath (nodes.foldl noteResult []) (.text path) = some true ↔
      ∃ trace, (⟨.text path, trace⟩ : Located) ∈ nodes ∧ trace.result = true := by
  rw [lookupPath_status texts]
  constructor
  · intro held
    split at held
    · cases held
    · obtain ⟨⟨own, trace⟩, member, result⟩ := List.any_eq_true.mp (Option.some.inj held)
      obtain ⟨among, rfl⟩ := mem_nodesAt_text.mp member
      exact ⟨trace, among, result⟩
  · rintro ⟨trace, member, result⟩
    have among := mem_nodesAt_text.mpr ⟨member, rfl⟩
    rw [if_neg (List.ne_nil_of_mem among), Option.some_inj, List.any_eq_true]
    exact ⟨_, among, result⟩

end Status

end Trace

/-! ## Rules and their traces -/

namespace RuleNode

open Trace

variable {settings : Settings} {document : Value} {base path : String} {found : Trace}

theorem mem_pathsFromAll_of_isAt {children : List RuleNode}
    (each : ∀ child ∈ children, ∀ trace, child.evaluate settings document = .ok trace →
      IsAt base trace path found → path ∈ child.pathsFrom base)
    {traces : List Trace} (evaluated : evaluateAll settings children document = .ok traces)
    {trace : Trace} (member : trace ∈ traces) (here : IsAt base trace path found) :
    path ∈ pathsFromAll base children := by
  obtain ⟨child, among, step⟩ := exists_related_of_mem (evaluateAll_eq_ok.mp evaluated) member
  rw [pathsFromAll_eq_flatMap]
  exact List.mem_flatMap.mpr ⟨child, among, each child among trace step here⟩

/-- Whatever is at a path in the trace of a rule, the rule has something there. -/
theorem mem_pathsFrom_of_isAt {node : RuleNode} {trace : Trace}
    (evaluated : node.evaluate settings document = .ok trace)
    (here : IsAt base trace path found) : path ∈ node.pathsFrom base := by
  induction node generalizing document base trace with
  | group id logic children ih =>
      rw [evaluate_group, Except.map_eq_ok] at evaluated
      obtain ⟨traces, evaluated, rfl⟩ := evaluated
      obtain ⟨child, member, inside⟩ := (isAt_group rfl).mp here
      exact mem_pathsFromAll_of_isAt (fun rule among _ => ih rule among) evaluated member inside
  | scalar id condition =>
      rw [evaluate, Condition.evaluate_eq_map, Except.map_eq_ok] at evaluated
      obtain ⟨shown, -, rfl⟩ := evaluated
      obtain ⟨rfl, -⟩ := (isAt_condition rfl).mp here
      exact List.mem_singleton_self _
  | array id own quantifier predicateId predicateLogic predicate ih =>
      rcases evaluate_array_eq_ok.mp evaluated with
        ⟨failing, -, rfl⟩ | ⟨elements, traces, -, steps, made⟩
      · rcases (isAt_sequence rfl).mp here with ⟨rfl, -⟩ | ⟨element, impossible, -⟩
        · exact List.mem_cons_self
        · cases impossible
      · obtain ⟨failing, -, done⟩ := Except.bind_eq_ok.mp made
        cases done
        rcases (isAt_sequence rfl).mp here with ⟨rfl, -⟩ | ⟨element, kept, inside⟩
        · exact List.mem_cons_self
        · -- The trace may have been told to drop the traces of elements.
          have member : element ∈ traces := by
            dsimp only at kept
            split at kept
            · exact kept
            · cases kept
          obtain ⟨entry, -, step⟩ := exists_related_of_mem steps member
          obtain ⟨children, evaluated, rfl⟩ := Except.map_eq_ok.mp step
          obtain ⟨child, among, deeper⟩ := (isAt_group rfl).mp inside
          exact List.mem_cons_of_mem _ (mem_pathsFromAll_of_isAt
            (fun rule inner _ => ih rule inner) evaluated among deeper)

/-- What lies in no array rule is in every trace. -/
theorem exists_isAt_of_hasOuterPath {node : RuleNode} (outer : node.HasOuterPath path)
    {trace : Trace} (evaluated : node.evaluate settings document = .ok trace) :
    ∃ found, IsAt "" trace path found := by
  induction outer generalizing trace with
  | condition =>
      rw [evaluate, Condition.evaluate_eq_map, Except.map_eq_ok] at evaluated
      obtain ⟨shown, -, rfl⟩ := evaluated
      exact ⟨_, (isAt_condition rfl).mpr ⟨(absolutePath_top _).symm, rfl⟩⟩
  | sequence =>
      rcases evaluate_array_eq_ok.mp evaluated with
        ⟨failing, -, rfl⟩ | ⟨elements, traces, -, -, made⟩
      · exact ⟨_, .sequence rfl⟩
      · obtain ⟨failing, -, done⟩ := Except.bind_eq_ok.mp made
        cases done
        exact ⟨_, .sequence rfl⟩
  | child member _ ih =>
      rw [evaluate_group, Except.map_eq_ok] at evaluated
      obtain ⟨traces, evaluated, rfl⟩ := evaluated
      obtain ⟨trace, among, step⟩ :=
        exists_related_of_mem (evaluateAll_eq_ok.mp evaluated).flip member
      obtain ⟨found, here⟩ := ih step
      exact ⟨found, .child rfl among here⟩

/-- What the paths that a rule reports and the views of one of its traces have in common. -/
structure Highlights (node : RuleNode) (trace : Trace) (used : List Value)
    (status : PathMap Bool) (messages : PathMap String) (matched : PathMap (List Nat)) : Prop where
  /-- The rule reports its paths in pre-order, each where it occurs first. -/
  ordered : used = reported (node.pathsFrom "")
  once : used.Nodup
  status_used : keys status ⊆ used
  messages_used : keys messages ⊆ used
  matched_used : keys matched ⊆ used
  /-- What is in no array rule has a status, whatever the trace keeps of elements. -/
  outer_shown : ∀ path, node.HasOuterPath path → .text path ∈ keys status
  /-- A path is shown to hold when some condition or array rule at it held. -/
  held_iff : ∀ path, lookupPath status (.text path) = some true ↔
    ∃ found, IsAt "" trace path found ∧ found.result = true

/-- The views of a trace are at the paths that the rule reports. -/
theorem exists_highlights_of_evaluate {node : RuleNode} (texts : node.HasTextPaths)
    {trace : Trace} (evaluated : node.evaluate settings document = .ok trace) :
    ∃ used status messages matched, node.usedPaths = .ok used ∧
      trace.statusByPath = .ok status ∧ trace.messagesByPath = .ok messages ∧
      trace.matchedIndicesByPath = .ok matched ∧
        node.Highlights trace used status messages matched := by
  have placed := isPlaced_of_evaluate texts evaluated
  obtain ⟨nodes, located, walked⟩ := exists_walk placed ""
  have at_path {path : String} {found : Trace} :
      (⟨.text path, found⟩ : Located) ∈ nodes ↔ IsAt "" trace path found :=
    mem_located_iff_isAt placed located
  have inside : nodes.map (·.path) ⊆ reported (node.pathsFrom "") := by
    intro path member
    obtain ⟨⟨own, found⟩, among, rfl⟩ := List.mem_map.mp member
    obtain ⟨text, rfl⟩ := walked.texts _ among
    exact mem_reported.mpr (mem_pathsFrom_of_isAt evaluated (at_path.mp among))
  refine ⟨_, _, _, _, usedPaths_eq_reported texts, statusByPath_eq_ok located walked.texts,
    messagesByPath_eq_ok located walked.texts, matchedIndicesByPath_eq_ok located,
    { ordered := rfl, once := nodup_reported _, status_used := ?_, messages_used := ?_,
      matched_used := ?_, outer_shown := ?_, held_iff := ?_ }⟩
  · exact List.Subset.trans (keys_foldl_subset (fun _ _ => keys_setPath_subset _ _ _) nodes) inside
  · have noted := keys_foldl_subset keys_noteFailure_subset nodes
    refine List.Subset.trans (List.map_subset _ (List.filter_subset_self _)) ?_
    exact List.Subset.trans noted inside
  · refine List.Subset.trans (keys_foldl_subset (fun _ _ => keys_setPath_subset _ _ _) _) ?_
    exact List.Subset.trans (List.map_subset _ (List.filter_subset_self _)) inside
  · intro path outer
    obtain ⟨found, here⟩ := exists_isAt_of_hasOuterPath outer evaluated
    exact mem_keys_status walked.texts (at_path.mpr here)
  · intro path
    rw [lookupPath_status_eq_true walked.texts]
    simp only [at_path]

/-- Some club has only members who are not called `eve`, or has a name; the profile has a name. -/
def clubRule : RuleNode :=
  .group "r1" .and
    [.array "r2" (.text "clubs[]") .any "r3" .or
      [.array "r4" (.text "") .all "r5" .and
        [.scalar "r6"
          { path := .text "", type := .string, operator := .neq, value := .text "eve"
            value2 := .null, legal := rfl }],
        .scalar "r7"
          { path := .text "name", type := .string, operator := .exists, value := .null
            value2 := .null, legal := rfl }],
      .scalar "r8"
        { path := .text "name", type := .string, operator := .exists, value := .null
          value2 := .null, legal := rfl }]

/-- Two clubs, the second of which has `eve` as a member. -/
def clubProfile : Value :=
  .mapping
    [("clubs", .list [.list [.text "ann", .text "bob"], .list [.text "eve"]]),
      ("name", .text "joe")]

theorem exists_highlights_clubRule :
    clubRule.HasTextPaths ∧ ∃ trace used status messages matched,
      clubRule.evaluate {} clubProfile = .ok trace ∧ clubRule.usedPaths = .ok used ∧
      trace.statusByPath = .ok status ∧ trace.messagesByPath = .ok messages ∧
      trace.matchedIndicesByPath = .ok matched ∧
        clubRule.Highlights trace used status messages matched ∧
        used = [.text "clubs", .text "clubs[]", .text "clubs[][]", .text "clubs[].name",
          .text "name"] := by
  have texts : clubRule.HasTextPaths := by
    intro node member path given
    simp only [clubRule, nodes, nodesOf, List.mem_cons, List.append_nil, List.cons_append,
      List.nil_append, List.not_mem_nil, or_false] at member
    rcases member with rfl | rfl | rfl | rfl | rfl | rfl | rfl | rfl <;> cases given <;>
      exact ⟨_, rfl⟩
  have finds : (clubRule.evaluate {} clubProfile).isOk = true := by rfl
  obtain ⟨trace, evaluated⟩ := Except.exists_of_isOk finds
  obtain ⟨used, status, messages, matched, collected, shown, explained, found, highlights⟩ :=
    exists_highlights_of_evaluate texts evaluated
  have reads : clubRule.usedPaths =
      .ok [.text "clubs", .text "clubs[]", .text "clubs[][]", .text "clubs[].name",
        .text "name"] := by
    rfl
  exact ⟨texts, trace, used, status, messages, matched, evaluated, collected, shown, explained,
    found, highlights, Except.ok.inj (collected.symm.trans reads)⟩

end RuleNode

end Rulebook
