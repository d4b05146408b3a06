import Rulebook.Evaluation.Highlight
import Rulebook.Proofs.Evaluation.Steps
import Rulebook.Proofs.Path.Written
import Rulebook.Proofs.Rule.Reloading

/-!
# What an evaluation reads

A rule reads a document at the concrete ones of its used paths and nowhere else: documents that
agree there give the same trace, or the same fault.  The used paths are collected apart from the
evaluation and without the marks of array rules, which the evaluation follows as they are written.
Below an array rule no further agreement is asked for; what happens there depends on the document
only through the sequence that the array rule reads.
-/

namespace Rulebook

/-- Whether two documents give the same at every concrete path of a list, be it a value, the mark
of a missing one or a fault. -/
def Value.AgreeOn (paths : List Value) (left right : Value) : Prop :=
  ∀ path ∈ paths, ∀ steps, Path.ofValue path = .ok steps → steps.isConcrete = true →
    steps.resolve false left = steps.resolve false right

theorem Value.AgreeOn.of_subset {fewer more : List Value} {left right : Value}
    (agree : AgreeOn more left right) (inside : fewer ⊆ more) : AgreeOn fewer left right :=
  fun path member => agree path (inside member)

theorem Value.AgreeOn.resolve_eq {paths : List Value} {left right : Value} {text : String}
    (agree : AgreeOn paths left right) (member : .text text ∈ paths)
    (concrete : (Path.parse text).isConcrete = true) :
    (Path.parse text).resolve false left = (Path.parse text).resolve false right :=
  agree _ member _ (Path.ofValue_text text) concrete

/-! ## Collecting paths -/

theorem subset_addPath (paths : List Value) (path : Value) : paths ⊆ addPath paths path := by
  rw [addPath]
  split
  · exact List.Subset.refl paths
  · exact List.subset_append_left paths [path]

theorem mem_addPath_text (paths : List Value) (text : String) :
    .text text ∈ addPath paths (.text text) := by
  rw [addPath]
  split
  · rename_i found
    obtain ⟨other, member, same⟩ := List.any_eq_true.mp found
    cases other with
    | text other => exact (eq_of_beq same) ▸ member
    | _ => cases same
  · exact List.mem_append_right paths (List.mem_singleton_self _)

theorem joinPath_empty (text : String) : joinPath "" (.text text) = .ok (.text text) := by
  rw [joinPath, if_pos (by rfl)]
  split
  · rfl
  · rename_i empty
    have blank : text = "" := by simpa [Value.isTruthy] using empty
    rw [blank]

theorem exists_joinPath (base text : String) :
    ∃ joined : String, joinPath base (.text text) = .ok (.text joined) := by
  rw [joinPath]
  split
  · split
    · exact ⟨text, rfl⟩
    · exact ⟨"", rfl⟩
  · split
    · exact ⟨base ++ "." ++ text, rfl⟩
    · exact ⟨base, rfl⟩

theorem joinArrayPath_text (base text : String) :
    joinArrayPath base (.text text) = .ok
      (if base.isEmpty then (Path.parse text).stripped.format
        else if (Path.parse text).stripped.format.isEmpty then base
        else base ++ "." ++ (Path.parse text).stripped.format) := by
  rw [joinArrayPath, Path.ofValue_text]
  rfl

namespace RuleNode

/-- Whether the keys in the paths of array rules are plain, so that their marks are all that sets
the path of an array rule apart from the path of its sequence. -/
def HasPlainArrayPaths (root : RuleNode) : Prop :=
  ∀ id path quantifier predicateId predicateLogic predicate,
    array id (.text path) quantifier predicateId predicateLogic predicate ∈ root.nodes →
      (Path.parse path).HasPlainKeys

theorem HasPlainArrayPaths.of_mem {node sub : RuleNode} (plain : node.HasPlainArrayPaths)
    (inside : sub ∈ node.nodes) : sub.HasPlainArrayPaths :=
  fun _ _ _ _ _ _ inner => plain _ _ _ _ _ _ (mem_nodes_trans inner inside)

theorem usedPathsFromAll_cons_eq_ok {base : String} {used paths : List Value} {node : RuleNode}
    {rest : List RuleNode} :
    usedPathsFromAll base used (node :: rest) = .ok paths ↔
      ∃ between, usedPathsFrom base used node = .ok between ∧
        usedPathsFromAll base between rest = .ok paths := by
  rw [usedPathsFromAll, Except.bind_eq_ok]

theorem usedPathsFrom_array_eq_ok {base : String} {used paths : List Value} {id : String}
    {path : Value} {quantifier : Quantifier} {predicateId : String} {predicateLogic : Logic}
    {predicate : List RuleNode} :
    usedPathsFrom base used (array id path quantifier predicateId predicateLogic predicate) =
        .ok paths ↔
      ∃ joined, joinArrayPath base path = .ok joined ∧
        usedPathsFromAll (elementBase joined) (addPath used (.text joined)) predicate =
          .ok paths := by
  rw [usedPathsFrom, Except.bind_eq_ok]

theorem subset_usedPathsFromAll {children : List RuleNode}
    (each : ∀ child ∈ children, ∀ base used paths,
      usedPathsFrom base used child = .ok paths → used ⊆ paths)
    {base : String} {used paths : List Value}
    (found : usedPathsFromAll base used children = .ok paths) : used ⊆ paths := by
  induction children generalizing used with
  | nil =>
      cases found
      exact fun _ member => member
  | cons child rest ih =>
      obtain ⟨between, here, later⟩ := usedPathsFromAll_cons_eq_ok.mp found
      have first := each child List.mem_cons_self _ _ _ here
      exact List.Subset.trans first
        (ih (fun node member => each node (List.mem_cons_of_mem _ member)) later)

/-- Paths that have been collected stay. -/
theorem subset_usedPathsFrom {node : RuleNode} {base : String} {used paths : List Value}
    (found : usedPathsFrom base used node = .ok paths) : used ⊆ paths := by
  induction node generalizing base used paths with
  | group id logic children ih =>
      exact subset_usedPathsFromAll (fun child member _ _ _ => ih child member) found
  | scalar id condition =>
      obtain ⟨joined, -, made⟩ := Except.bind_eq_ok.mp found
      cases made
      exact subset_addPath used joined
  | array id path quantifier predicateId predicateLogic predicate ih =>
      obtain ⟨joined, -, below⟩ := usedPathsFrom_array_eq_ok.mp found
      exact List.Subset.trans (subset_addPath used _)
        (subset_usedPathsFromAll (fun child member _ _ _ => ih child member) below)

/-- The paths of a rule that is collected among others are among those of all. -/
theorem exists_subset_of_usedPathsFromAll {children : List RuleNode} {base : String}
    {used paths : List Value} (found : usedPathsFromAll base used children = .ok paths)
    {child : RuleNode} (member : child ∈ children) :
    ∃ before after, usedPathsFrom base before child = .ok after ∧ after ⊆ paths := by
  induction children generalizing used with
  | nil => cases member
  | cons first rest ih =>
      obtain ⟨between, here, later⟩ := usedPathsFromAll_cons_eq_ok.mp found
      rcases List.mem_cons.mp member with rfl | member
      · refine ⟨used, between, here, subset_usedPathsFromAll (fun _ _ _ _ _ => ?_) later⟩
        exact subset_usedPathsFrom
      · exact ih later member

theorem exists_usedPathsFromAll {children : List RuleNode}
    (each : ∀ child ∈ children, ∀ base used, ∃ paths, usedPathsFrom base used child = .ok paths)
    (base : String) (used : List Value) :
    ∃ paths, usedPathsFromAll base used children = .ok paths := by
  induction children generalizing used with
  | nil => exact ⟨used, rfl⟩
  | cons child rest ih =>
      obtain ⟨between, here⟩ := each child List.mem_cons_self base used
      obtain ⟨paths, later⟩ :=
        ih (fun node member => each node (List.mem_cons_of_mem _ member)) between
      exact ⟨paths, usedPathsFromAll_cons_eq_ok.mpr ⟨between, here, later⟩⟩

/-- The paths of a rule can be collected when they are texts. -/
theorem exists_usedPathsFrom {node : RuleNode} (texts : node.HasTextPaths) (base : String)
    (used : List Value) : ∃ paths, usedPathsFrom base used node = .ok paths := by
  induction node generalizing base used with
  | group id logic children ih =>
      exact exists_usedPathsFromAll (fun child member =>
        ih child member (texts.of_mem (mem_nodes_of_mem_children member))) base used
  | scalar id condition =>
      obtain ⟨text, isText⟩ := texts _ (self_mem_nodes _) condition.path rfl
      obtain ⟨joined, made⟩ := exists_joinPath base text
      exact ⟨_, Except.bind_eq_ok.mpr ⟨.text joined, isText ▸ made, rfl⟩⟩
  | array id path quantifier predicateId predicateLogic predicate ih =>
      obtain ⟨text, rfl⟩ := texts _ (self_mem_nodes _) path rfl
      obtain ⟨paths, below⟩ := exists_usedPathsFromAll (fun child member =>
        ih child member (texts.of_mem (mem_nodes_of_mem_predicate member))) _ _
      exact ⟨paths, usedPathsFrom_array_eq_ok.mpr ⟨_, joinArrayPath_text base text, below⟩⟩

end RuleNode

/-! ## Reading documents -/

/-- A condition with a marked path reads nothing, and any other what its path leads to. -/
theorem Condition.evaluate_congr {condition : Condition} {text : String}
    (isText : condition.path = .text text) {left right : Value}
    (same : (Path.parse text).isConcrete = true →
      (Path.parse text).resolve false left = (Path.parse text).resolve false right)
    (settings : Settings) (id : String) :
    condition.evaluate settings id left = condition.evaluate settings id right := by
  have read : Path.ofValue condition.path = .ok (Path.parse text) :=
    isText ▸ Path.ofValue_text text
  rw [evaluate, evaluate, read]
  change (if !(Path.parse text).isConcrete then _ else _) =
    (if !(Path.parse text).isConcrete then _ else _)
  cases concrete : (Path.parse text).isConcrete with
  | false => rfl
  | true => rw [same concrete]

/-- An array rule reads what its path leads to, whatever is marked on the way. -/
theorem arrayElements_congr {text : String} {left right : Value}
    (same : (Path.parse text).stripped.resolve false left =
      (Path.parse text).stripped.resolve false right) :
    arrayElements (.text text) left = arrayElements (.text text) right := by
  rw [Path.resolve_stripped, Path.resolve_stripped] at same
  rw [arrayElements, arrayElements, Path.ofValue_text]
  change (if (Path.parse text).dropLast.any Segment.isMarked then _ else _) =
    (if (Path.parse text).dropLast.any Segment.isMarked then _ else _)
  rw [same]

namespace RuleNode

theorem evaluateAll_congr {children : List RuleNode} {left right : Value} {settings : Settings}
    (each : ∀ child ∈ children, child.evaluate settings left = child.evaluate settings right) :
    evaluateAll settings children left = evaluateAll settings children right := by
  induction children with
  | nil => rfl
  | cons child rest ih =>
      rw [evaluateAll, evaluateAll, each child List.mem_cons_self,
        ih fun node member => each node (List.mem_cons_of_mem _ member)]

/-- The paths that are collected at the top of a document are all that matters for a trace. -/
theorem evaluate_congr_of_usedPathsFrom {node : RuleNode} (texts : node.HasTextPaths)
    (plain : node.HasPlainArrayPaths) {used paths : List Value}
    (found : usedPathsFrom "" used node = .ok paths) {left right : Value}
    (agree : Value.AgreeOn paths left right) (settings : Settings) :
    node.evaluate settings left = node.evaluate settings right := by
  induction node generalizing used paths with
  | group id logic children ih =>
      rw [evaluate_group, evaluate_group]
      refine congrArg _ (evaluateAll_congr fun child member => ?_)
      have below : child ∈ (group id logic children).nodes := mem_nodes_of_mem_children member
      obtain ⟨before, after, collected, inside⟩ := exists_subset_of_usedPathsFromAll found member
      exact ih child member (texts.of_mem below) (plain.of_mem below) collected
        (agree.of_subset inside)
  | scalar id condition =>
      obtain ⟨text, isText⟩ := texts _ (self_mem_nodes _) condition.path rfl
      rw [usedPathsFrom, isText, joinPath_empty] at found
      cases found
      rw [evaluate, evaluate]
      exact Condition.evaluate_congr isText (agree.resolve_eq (mem_addPath_text used text))
        settings id
  | array id path quantifier predicateId predicateLogic predicate =>
      obtain ⟨text, rfl⟩ := texts _ (self_mem_nodes _) path rfl
      obtain ⟨joined, made, below⟩ := usedPathsFrom_array_eq_ok.mp found
      rw [joinArrayPath_text, if_pos (by rfl)] at made
      cases made
      have collected : .text (Path.parse text).stripped.format ∈ paths :=
        subset_usedPathsFromAll (fun _ _ _ _ _ => subset_usedPathsFrom) below
          (mem_addPath_text used _)
      have written := Path.parse_format_stripped (plain _ _ _ _ _ _ (self_mem_nodes _))
      have same := agree.resolve_eq collected (by rw [written, Path.isConcrete_stripped])
      rw [written] at same
      -- The document occurs in nothing but the sequence, so the predicate needs no induction.
      rw [evaluate_array, evaluate_array, arrayElements_congr same]

/-- A rule reads only the paths it reports. -/
theorem evaluate_eq_of_agreeOn_usedPaths (node : RuleNode) (texts : node.HasTextPaths)
    (plain : node.HasPlainArrayPaths) :
    ∃ paths, node.usedPaths = .ok paths ∧
      ∀ settings left right, Value.AgreeOn paths left right →
        node.evaluate settings left = node.evaluate settings right := by
  obtain ⟨paths, found⟩ := exists_usedPathsFrom texts "" []
  exact ⟨paths, found, fun settings left right agree =>
    evaluate_congr_of_usedPathsFrom texts plain found agree settings⟩

/-- The member is not banned and some project is finished. -/
def memberRule : RuleNode :=
  .group "r1" .and
    [.scalar "r2"
      { path := .text "banned", type := .unknown, operator := .notExists, value := .null
        value2 := .null, legal := rfl },
    .array "r3" (.text "work.projects[]") .any "r4" .and
      [.scalar "r5"
        { path := .text "final", type := .boolean, operator := .eq, value := .bool true
          value2 := .null, legal := rfl }]]

/-- A member with one finished project and a login that no rule asks for. -/
def memberNamed (login : String) (age : Int) : Value :=
  .mapping [("login", .text login),
    ("work", .mapping [("projects", .list [.mapping [("final", .bool true)]]), ("age", .int age)])]

theorem evaluate_memberRule :
    memberRule.HasTextPaths ∧ memberRule.HasPlainArrayPaths ∧
      memberRule.usedPaths =
        .ok [.text "banned", .text "work.projects", .text "work.projects[].final"] ∧
      memberRule.evaluate {} (memberNamed "ann" 30) =
        memberRule.evaluate {} (memberNamed "bob" 41) := by
  have texts : memberRule.HasTextPaths := by
    intro node member path given
    simp only [memberRule, nodes, nodesOf, List.mem_cons, List.append_nil, List.cons_append,
      List.nil_append, List.not_mem_nil, or_false] at member
    rcases member with rfl | rfl | rfl | rfl | rfl <;> cases given <;> exact ⟨_, rfl⟩
  have plain : memberRule.HasPlainArrayPaths := by
    intro id path quantifier predicateId predicateLogic predicate member
    simp only [memberRule, nodes, nodesOf, List.mem_cons, List.append_nil, List.cons_append,
      List.nil_append, List.not_mem_nil, or_false] at member
    rcases member with found | found | found | found | found <;> cases found
    have steps : Path.parse "work.projects[]" =
        [{ key := "work" }, { key := "projects", isMarked := true }] := by decide +kernel
    rw [steps]
    intro segment among
    rcases List.mem_cons.mp among with rfl | among
    · exact ⟨by decide, by decide⟩
    · cases List.mem_singleton.mp among
      exact ⟨by decide, by decide⟩
  have collected : memberRule.usedPaths =
      .ok [.text "banned", .text "work.projects", .text "work.projects[].final"] := by
    rfl
  obtain ⟨paths, found, same⟩ := evaluate_eq_of_agreeOn_usedPaths memberRule texts plain
  cases Except.ok.inj (collected.symm.trans found)
  refine ⟨texts, plain, collected, same {} _ _ fun path member steps read concrete => ?_⟩
  simp only [List.mem_cons, List.not_mem_nil, or_false] at member
  rcases member with rfl | rfl | rfl <;> cases read
  · rfl
  · rfl
  · cases concrete

end RuleNode

end Rulebook
