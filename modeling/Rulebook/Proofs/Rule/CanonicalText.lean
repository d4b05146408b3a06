import Rulebook.Proofs.Json.Writing
import Rulebook.Proofs.Rule.Reloading

/-!
# Canonical text

The JSON text of a rule whose paths are texts, whose operands are plain and whose counts and indices
are not too long is read back: it loads to what the portable form loads to, and that has the same
text.
-/

namespace Rulebook

namespace Value

theorem portable_of_isPlain {value : Value} (plain : value.isPlain = true) :
    value.portable = value := by
  cases value <;> first | rfl | cases plain

end Value

/-- Whether the operands that the operator of a condition reads are plain. -/
def Condition.HasPlainOperands (condition : Condition) : Prop :=
  (condition.operator.readsValue = true → condition.value.isPlain = true) ∧
    (condition.operator.readsSecondValue = true → condition.value2.isPlain = true)

/-- Whether the count or index of a quantifier, when it has one, is not too long. -/
def Quantifier.HasShortNumber (quantifier : Quantifier) : Prop :=
  (∀ count ∈ quantifier.count?, Numeral.isTooLong count = false) ∧
    ∀ index ∈ quantifier.index?, Numeral.isTooLong index = false

theorem isPlain_portableGroup {children : List Value}
    (each : ∀ child ∈ children, child.isPlain = true) (logic : Logic) :
    (portableGroup logic children).isPlain = true := by
  have plain := Value.arePlain_iff.mpr each
  simp [portableGroup, Value.isPlain, Value.entriesArePlain, plain]

theorem Condition.isPlain_portable {condition : Condition} {path : String}
    (isText : condition.path = .text path) (plain : condition.HasPlainOperands) :
    (Value.mapping condition.portable).isPlain = true := by
  obtain ⟨_, type, operator, value, value2, legal⟩ := condition
  obtain ⟨first, second⟩ := plain
  cases isText
  cases reads : operator.readsValue <;> cases also_reads : operator.readsSecondValue <;>
    simp_all [portable, Value.isPlain, Value.entriesArePlain, Value.portable_of_isPlain]

theorem Quantifier.isPlain_array {quantifier : Quantifier} (short : quantifier.HasShortNumber)
    (path : String) {predicate : Value} (plain : predicate.isPlain = true) :
    (Value.mapping ([("kind", .text arrayKind), ("path", .text path),
      ("quantifier", .text quantifier.name)] ++ quantifier.portable ++
        [("predicate", predicate)])).isPlain = true := by
  obtain ⟨count, index⟩ := short
  cases quantifier <;>
    simp_all [portable, count?, index?, Value.isPlain, Value.entriesArePlain]

namespace RuleNode

/-- Whether what the portable form of a rule shows has a JSON text that gives it back. -/
structure IsPlain (root : RuleNode) : Prop where
  texts : root.HasTextPaths
  operands : ∀ id condition, scalar id condition ∈ root.nodes → condition.HasPlainOperands
  numbers : ∀ id path quantifier predicateId logic predicate,
    array id path quantifier predicateId logic predicate ∈ root.nodes →
      quantifier.HasShortNumber

theorem IsPlain.of_mem {root node : RuleNode} (plain : root.IsPlain) (inside : node ∈ root.nodes) :
    node.IsPlain where
  texts := plain.texts.of_mem inside
  operands := fun id condition among => plain.operands id condition (mem_nodes_trans among inside)
  numbers := fun _ _ _ _ _ _ among => plain.numbers _ _ _ _ _ _ (mem_nodes_trans among inside)

theorem isPlain_portableAll {children : List RuleNode}
    (each : ∀ child ∈ children, child.portable.isPlain = true) :
    ∀ form ∈ portableAll children, form.isPlain = true := by
  rw [portableAll_eq_map]
  exact List.forall_mem_map.mpr each

theorem isPlain_portable {root : RuleNode} (plain : root.IsPlain) :
    root.portable.isPlain = true := by
  induction root with
  | group id logic children ih =>
      rw [portable]
      refine isPlain_portableGroup (isPlain_portableAll fun child member => ?_) logic
      exact ih child member (plain.of_mem (mem_nodes_of_mem_children member))
  | scalar id condition =>
      obtain ⟨path, isText⟩ := plain.texts _ (self_mem_nodes _) condition.path rfl
      rw [portable]
      exact Condition.isPlain_portable isText (plain.operands id condition (self_mem_nodes _))
  | array id path quantifier predicateId predicateLogic predicate ih =>
      obtain ⟨text, rfl⟩ := plain.texts _ (self_mem_nodes _) path rfl
      have inner := isPlain_portableGroup (isPlain_portableAll fun child member =>
        ih child member (plain.of_mem (mem_nodes_of_mem_predicate member))) predicateLogic
      rw [portable]
      exact Quantifier.isPlain_array (plain.numbers _ _ _ _ _ _ (self_mem_nodes _)) text inner

/-- The canonical text of a plain rule that is not nested too deeply loads to what its portable form
loads to in the same session, and what is loaded has the same canonical text. -/
theorem exists_run_ofText_canonicalJson {root : RuleNode} (plain : root.IsPlain)
    {environment : List (String × String)} {settings : Settings}
    (made : Settings.make [] environment = .ok settings)
    (shallow : (root.depth : Int) ≤ settings.maxRuleDepth) (session : Session) :
    ∃ text node last, root.canonicalJson = .ok text ∧
      (ofPortable settings.maxRuleDepth root.portable).run session = (.ok node, last) ∧
        (ofText environment text).run session = (.ok node, last) ∧
          node.canonicalJson = .ok text := by
  obtain ⟨text, written, read⟩ := Json.exists_text_of_isPlain (isPlain_portable plain)
  have deep : root.depth ≤ settings.maxRuleDepth.toNat := by omega
  have loaded : (ofPortable settings.maxRuleDepth root.portable).Yields root.canonical :=
    load_portable plain.texts deep "$"
  have parsed : documentOfText text = .ok root.portable := by
    rw [documentOfText, read]
  refine ⟨text, _, _, written, loaded session, ?_, ?_⟩
  · rw [ofText, parsed, made]
    exact loaded session
  · rw [canonicalJson, portable_renumber, portable_canonical]
    exact written

/-- Not in one of these offices, whose names are not easily written, and with two roles. -/
def officeRule : RuleNode :=
  .group "r1" .and
    [.scalar "r2"
      { path := .text "office", type := .string, operator := .notIn
        value := .list
          [.text "Z\u00fcrich \"West\"", .text "\\\n\u0001", .int (-20), .null,
            .mapping [("floor", .int 3), ("open", .bool true), ("\t", .list [])]]
        value2 := .null, legal := rfl },
      .array "r3" (.text "roles") (.countAtLeast 2) "r4" .or []]

theorem exists_run_ofText_officeRule :
    officeRule.IsPlain ∧ Settings.make [] [] = .ok {} ∧ ∀ session,
      ∃ text node last, officeRule.canonicalJson = .ok text ∧
        (ofPortable 32 officeRule.portable).run session = (.ok node, last) ∧
          (ofText [] text).run session = (.ok node, last) ∧ node.canonicalJson = .ok text := by
  have made : Settings.make [] [] = .ok {} := rfl
  have shallow : (officeRule.depth : Int) ≤ 32 := by decide
  have plain : officeRule.IsPlain := by
    constructor
    · intro node member path given
      simp only [officeRule, nodes, nodesOf, List.mem_cons, List.append_nil, List.cons_append,
        List.nil_append, List.not_mem_nil, or_false] at member
      rcases member with rfl | rfl | rfl | rfl <;> cases given <;> exact ⟨_, rfl⟩
    · intro id condition member
      simp only [officeRule, nodes, nodesOf, List.mem_cons, List.append_nil, List.cons_append,
        List.nil_append, List.not_mem_nil, or_false] at member
      rcases member with same | same | same | same <;> cases same
      refine ⟨fun _ => by decide +kernel, fun reads => ?_⟩
      cases reads
    · intro id path quantifier predicateId logic predicate member
      simp only [officeRule, nodes, nodesOf, List.mem_cons, List.append_nil, List.cons_append,
        List.nil_append, List.not_mem_nil, or_false] at member
      rcases member with same | same | same | same <;> cases same
      refine ⟨fun count given => ?_, fun index given => ?_⟩
      · cases given
        decide +kernel
      · cases given
  exact ⟨plain, made, exists_run_ofText_canonicalJson plain made shallow⟩

end RuleNode

end Rulebook
