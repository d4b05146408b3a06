import Rulebook.Proofs.Results
import Rulebook.Proofs.Rule.Canonical
import Rulebook.Rule.Load

/-!
# Reloading rules

The portable form of a rule whose paths are texts and that is not nested too deeply is accepted
wherever it is loaded, and gives the canonical rule with the next identities of the session.
-/

namespace Rulebook

namespace Issuing

/-- Whether a computation gives a rule with the next identities of any session. -/
def Yields (computation : Issuing RuleNode) (node : RuleNode) : Prop :=
  ∀ session,
    computation.run session = (.ok (node.renumber session).1, (node.renumber session).2)

end Issuing

namespace NodeDocument

theorem quantifier_name (name : QuantifierKind) : quantifier (.text name.name) = .ok name := by
  cases name <;> rfl

theorem valueType_name (type : ValueType) : valueType (.text type.name) = .ok type := by
  cases type <;> rfl

theorem operator_name (name : Operator) : operator (.text name.name) = .ok name := by
  cases name <;> rfl

end NodeDocument

namespace RuleNode

/-! ## Nodes -/

theorem readNode_portableGroup (location : String) (logic : Logic) (children : List Value) :
    readNode location (portableGroup logic children) = .ok (.group logic children) := by
  cases logic <;> rfl

theorem readNode_condition {condition : Condition} {path : String}
    (isText : condition.path = .text path) (location : String) :
    readNode location (.mapping condition.portable) =
      .ok (.scalar path condition.type condition.operator condition.canonical.value
        condition.canonical.value2) := by
  obtain ⟨_, type, operator, value, value2, legal⟩ := condition
  cases isText
  have kind : NodeKind.ofValue? (.text scalarKind) = some .scalar := rfl
  have named := NodeDocument.valueType_name type
  have applied := NodeDocument.operator_name operator
  cases first : operator.readsValue <;> cases second : operator.readsSecondValue <;>
    simp [readNode, Condition.portable, Condition.canonical, Value.canonicalIf, kind,
      NodeDocument.read, NodeDocument.either, NodeDocument.required, NodeDocument.valueOr,
      Field.text, named, applied, first, second, List.lookup_cons, Except.mapError]

theorem readNode_array (location : String) (path : String) (quantifier : Quantifier)
    (predicate : Value) (mapping : ∃ entries, predicate = .mapping entries) :
    readNode location (.mapping ([("kind", .text arrayKind), ("path", .text path),
        ("quantifier", .text quantifier.name)] ++ quantifier.portable ++
          [("predicate", predicate)])) =
      .ok (.array path quantifier.kind (quantifier.count?.map Int.ofNat)
        (quantifier.index?.map Int.ofNat) predicate) := by
  obtain ⟨entries, rfl⟩ := mapping
  have kind : NodeKind.ofValue? (.text arrayKind) = some .array := rfl
  have named := NodeDocument.quantifier_name quantifier.kind
  cases quantifier <;>
    simp [readNode, Quantifier.portable, Quantifier.count?, Quantifier.index?, Quantifier.name,
      kind, NodeDocument.read, NodeDocument.required, NodeDocument.valueOr, NodeDocument.predicate,
      Field.text, Field.entries, Field.optionalInteger, Field.integer, named, List.lookup_cons,
      Except.map, Except.mapError]

theorem make_quantifier (quantifier : Quantifier) (path : Value) :
    quantifier.kind.make path
        (if quantifier.kind.readsCount then optionalNumber (quantifier.count?.map Int.ofNat)
          else .null)
        (if quantifier.kind.readsIndex then optionalNumber (quantifier.index?.map Int.ofNat)
          else .null) =
      .ok quantifier := by
  cases quantifier <;> rfl

/-! ## Loading -/

/-- Makes the node of a document that has been read, under a given identity. -/
def assemble (maxDepth : Int) (depth : Nat) (location id : String) :
    NodeDocument → Issuing RuleNode
  | .group logic children => do
      let children ← loadChildren (load maxDepth depth) location 0 children
      return .group id logic children
  | .scalar path type operator value value2 =>
      match Condition.make (.text path) type operator value value2 with
      | .ok condition => return .scalar id condition
      | .error fault => throw (atLocation location fault)
  | .array path kind count index predicate => do
      let predicate ← load maxDepth depth (predicateLocation location) predicate
      arrayOver id location path kind count index predicate

theorem load_succ (maxDepth : Int) (depth : Nat) (location : String) (data : Value) :
    load maxDepth (depth + 1) location data = (do
      let document ← readNode location data
      let id ← nextId
      assemble maxDepth depth location id document) := by
  rw [load]
  rfl

/-- A node is loaded by reading its fields and making it with the next identity. -/
theorem load_eq_ok {maxDepth : Int} {depth : Nat} {location : String} {data : Value}
    {session last : Session} {node : RuleNode} :
    (load maxDepth (depth + 1) location data).run session = (.ok node, last) ↔
      ∃ document, readNode location data = .ok document ∧
        (assemble maxDepth depth location session.next document).run session.advance =
          (.ok node, last) := by
  rw [load_succ]
  constructor
  · intro loaded
    obtain ⟨document, between, read, rest⟩ := ExceptT.bind_eq_ok.mp loaded
    obtain ⟨id, later, issued, made⟩ := ExceptT.bind_eq_ok.mp rest
    have found : readNode location data = .ok document := congrArg Prod.fst read
    have same : session = between := congrArg Prod.snd read
    subst same
    cases issued
    exact ⟨document, found, made⟩
  · rintro ⟨document, read, made⟩
    rw [read]
    exact made

mutual

/-- How many levels the document of a rule has. -/
def depth : RuleNode → Nat
  | group _ _ children => depthBelow children + 1
  | scalar .. => 1
  | array _ _ _ _ _ predicate => depthBelow predicate + 2

/-- How many levels the deepest of several documents has. -/
def depthBelow : List RuleNode → Nat
  | [] => 0
  | node :: rest => max (depth node) (depthBelow rest)

end

/-- The path of a node that has one. -/
def path? : RuleNode → Option Value
  | group .. => none
  | scalar _ condition => some condition.path
  | array _ path .. => some path

/-- Whether the paths in a rule are texts. -/
def HasTextPaths (root : RuleNode) : Prop :=
  ∀ node ∈ root.nodes, ∀ path ∈ node.path?, ∃ text, path = .text text

theorem HasTextPaths.of_mem {node sub : RuleNode} (texts : node.HasTextPaths)
    (inside : sub ∈ node.nodes) : sub.HasTextPaths :=
  fun other inner => texts other (mem_nodes_trans inner inside)

theorem depth_le_depthBelow {children : List RuleNode} {child : RuleNode}
    (member : child ∈ children) : child.depth ≤ depthBelow children := by
  induction member with
  | head rest => exact Nat.le_max_left _ _
  | tail node _ ih => exact Nat.le_trans ih (Nat.le_max_right _ _)

theorem depth_le_of_mem {node sub : RuleNode} (inside : sub ∈ node.nodes) :
    sub.depth ≤ node.depth := by
  induction node with
  | group id logic children ih =>
      rcases mem_nodes_group.mp inside with rfl | ⟨child, member, below⟩
      · exact Nat.le_refl _
      · have lower := ih child member below
        have bound := depth_le_depthBelow member
        rw [depth]
        omega
  | scalar id condition =>
      cases List.mem_singleton.mp inside
      exact Nat.le_refl _
  | array id path quantifier predicateId predicateLogic predicate ih =>
      rcases mem_nodes_array.mp inside with rfl | rfl | ⟨child, member, below⟩
      · exact Nat.le_refl _
      · rw [depth, depth]
        omega
      · have lower := ih child member below
        have bound := depth_le_depthBelow member
        rw [depth]
        omega

theorem loadChildren_portable {loadChild : String → Value → Issuing RuleNode}
    {children : List RuleNode}
    (each : ∀ child ∈ children, ∀ location,
      (loadChild location child.portable).Yields child.canonical)
    (location : String) (position : Nat) (session : Session) :
    (loadChildren loadChild location position (portableAll children)).run session =
      (.ok (renumberAll (canonicalAll children) session).1,
        (renumberAll (canonicalAll children) session).2) := by
  induction children generalizing position session with
  | nil => rfl
  | cons child rest ih =>
      have later := ih fun node member => each node (List.mem_cons_of_mem _ member)
      refine ExceptT.bind_eq_ok.mpr ⟨_, _, each child List.mem_cons_self _ session, ?_⟩
      exact ExceptT.bind_eq_ok.mpr ⟨_, _, later _ _, rfl⟩

theorem load_portableGroup {maxDepth : Int} {depth : Nat} {children : List RuleNode}
    (each : ∀ child ∈ children, ∀ location,
      (load maxDepth depth location child.portable).Yields child.canonical)
    (location : String) (id : String) (logic : Logic) :
    (load maxDepth (depth + 1) location (portableGroup logic (portableAll children))).Yields
      (group id logic children).canonical := by
  intro session
  refine load_eq_ok.mpr ⟨_, readNode_portableGroup location logic _, ?_⟩
  exact ExceptT.bind_eq_ok.mpr ⟨_, _, loadChildren_portable each location 0 _, rfl⟩

/-- The portable form of a rule is accepted and gives the canonical rule, numbered by the
session. -/
theorem load_portable {maxDepth : Int} {depth : Nat} {node : RuleNode}
    (texts : node.HasTextPaths) (shallow : node.depth ≤ depth) (location : String) :
    (load maxDepth depth location node.portable).Yields node.canonical := by
  induction node generalizing depth location with
  | group id logic children ih =>
      obtain ⟨depth, rfl⟩ : ∃ below, depth = below + 1 :=
        Nat.exists_eq_add_of_le' (Nat.le_trans (Nat.le_add_left 1 _) shallow)
      rw [RuleNode.depth, Nat.add_le_add_iff_right] at shallow
      refine load_portableGroup (fun child member => ?_) location id logic
      exact ih child member (texts.of_mem (mem_nodes_of_mem_children member))
        (Nat.le_trans (depth_le_depthBelow member) shallow)
  | scalar id condition =>
      intro session
      obtain ⟨depth, rfl⟩ : ∃ below, depth = below + 1 :=
        Nat.exists_eq_add_of_le' (Nat.le_trans (Nat.le_add_left 1 _) shallow)
      obtain ⟨path, isText⟩ := texts _ (self_mem_nodes _) condition.path rfl
      refine load_eq_ok.mpr ⟨_, readNode_condition isText location, ?_⟩
      rw [assemble, Condition.make, dif_pos condition.legal, ← isText]
      rfl
  | array id path quantifier predicateId predicateLogic predicate ih =>
      intro session
      obtain ⟨depth, rfl⟩ : ∃ below, depth = below + 2 :=
        Nat.exists_eq_add_of_le' (Nat.le_trans (Nat.le_add_left 2 _) shallow)
      rw [RuleNode.depth, Nat.add_le_add_iff_right] at shallow
      obtain ⟨text, rfl⟩ := texts _ (self_mem_nodes _) path rfl
      have below : ∀ child ∈ predicate, ∀ location,
          (load maxDepth depth location child.portable).Yields child.canonical :=
        fun child member => ih child member (texts.of_mem (mem_nodes_of_mem_predicate member))
          (Nat.le_trans (depth_le_depthBelow member) shallow)
      refine load_eq_ok.mpr ⟨_, readNode_array location text quantifier _ ⟨_, rfl⟩, ?_⟩
      have loaded := load_portableGroup below (predicateLocation location) predicateId
        predicateLogic session.advance
      refine ExceptT.bind_eq_ok.mpr ⟨_, _, loaded, ?_⟩
      rw [canonical, canonical, renumber, renumber, arrayOver, make_quantifier]
      rfl

end RuleNode

end Rulebook
