import Rulebook.Proofs.Evaluation.Canonical
import Rulebook.Proofs.Rule.Changes

/-!
# Stray fields

An operand that the operator of a condition does not read, and a count or index that the quantifier
of an array rule does not read, may be anything that is readable there.  The document is accepted
all the same, and what is loaded has the same portable form and gives the same traces.
-/

namespace Rulebook

namespace Condition

/-- A condition without the operands that its operator does not read. -/
def relevant (condition : Condition) : Condition :=
  { condition with
    value := if condition.operator.readsValue then condition.value else .null
    value2 := if condition.operator.readsSecondValue then condition.value2 else .null }

theorem portable_relevant (condition : Condition) :
    condition.relevant.portable = condition.portable := by
  obtain ⟨path, type, operator, value, value2, legal⟩ := condition
  cases operator <;>
    simp [portable, relevant, Operator.readsValue, Operator.readsSecondValue]

theorem test_relevant (condition : Condition) (settings : Settings) :
    condition.operator.test condition.type (condition.relevant.operands settings.listDelimiter) =
      condition.operator.test condition.type (condition.operands settings.listDelimiter) := by
  obtain ⟨path, type, operator, value, value2, legal⟩ := condition
  funext subject
  cases operator <;>
    simp [relevant, operands, Operator.readsValue, Operator.readsSecondValue, Operator.test,
      checkRelation, checkBetween, isMember, Operands.members, Operands.first, Operands.second,
      Operator.comparison?]

theorem evaluate_relevant (condition : Condition) (settings : Settings) (id : String)
    (document : Value) :
    condition.relevant.evaluate settings id document = condition.evaluate settings id document := by
  have same : condition.relevant.operator.applyTo condition.relevant.type
      (condition.relevant.operands settings.listDelimiter) =
        condition.operator.applyTo condition.type (condition.operands settings.listDelimiter) :=
    Operator.applyTo_congr (condition.test_relevant settings)
  rw [evaluate, evaluate, same]
  rfl

end Condition

theorem NodeDocument.HasFields.unique {entries : Entries} {document other : NodeDocument}
    (fields : HasFields entries document) (also_fields : HasFields entries other) :
    other = document := by
  have read : RuleNode.readNode "$" (.mapping entries) = .ok document :=
    RuleNode.readNode_eq_ok.mpr ⟨entries, rfl, fields⟩
  have also_read : RuleNode.readNode "$" (.mapping entries) = .ok other :=
    RuleNode.readNode_eq_ok.mpr ⟨entries, rfl, also_fields⟩
  exact Except.ok.inj (also_read.symm.trans read)

/-- Whether conditions with an operator do not read the operand under a key. -/
def Operator.Ignores (operator : Operator) (key : String) : Prop :=
  key = "value" ∧ operator.readsValue = false ∨
    key = "value2" ∧ operator.readsSecondValue = false

/-- Whether array rules with a quantifier do not read the number under a key. -/
def QuantifierKind.Ignores (quantifier : QuantifierKind) (key : String) : Prop :=
  key = "count" ∧ quantifier.readsCount = false ∨ key = "index" ∧ quantifier.readsIndex = false

/-- Whether the entries of a node differ in a field that the node does not read. -/
inductive StrayChange (entries changed : Entries) : Prop where
  | operand {key path : String} {type : ValueType} {operator : Operator} {value value2 : Value}
      (fields : NodeDocument.HasFields entries (.scalar path type operator value value2))
      (ignored : operator.Ignores key) (agree : AgreeExcept [key] entries changed)
  /-- What stands under a key of a number has to be a number, or null, all the same. -/
  | number {key path : String} {quantifier : QuantifierKind} {count index number : Option Int}
      {predicate : Value}
      (fields : NodeDocument.HasFields entries (.array path quantifier count index predicate))
      (ignored : quantifier.Ignores key)
      (readable : Field.optionalInteger (NodeDocument.valueOr (changed.lookup key)) = .ok number)
      (agree : AgreeExcept [key] entries changed)

namespace StrayChange

open NodeDocument RuleNode

variable {entries changed : Entries} {key path : String}

theorem exists_matches_scalar {type : ValueType} {operator : Operator} {value value2 : Value}
    (fields : HasFields entries (.scalar path type operator value value2))
    (ignored : operator.Ignores key) (agree : AgreeExcept [key] entries changed) :
    ∃ other, HasFields changed other ∧
      Matches Condition.relevant (.scalar path type operator value value2) other := by
  have elsewhere (name : String) (ne : name ∉ ["value", "value2"]) :
      changed.lookup name = entries.lookup name := by
    refine agree name fun same => ne ?_
    rcases ignored with ⟨rfl, -⟩ | ⟨rfl, -⟩ <;> simp_all
  cases fields with
  | scalar kind path_given type_named operator_named =>
      have changed_fields : HasFields changed (.scalar path type operator
          (valueOr (changed.lookup "value")) (valueOr (changed.lookup "value2"))) := by
        refine .scalar (kind.of_lookup_eq (elsewhere "kind" (by decide))) ?_ ?_ ?_
        · rwa [elsewhere "path" (by decide)]
        · rwa [elsewhere "valueType" (by decide), elsewhere "valuetype" (by decide)]
        · rwa [elsewhere "op" (by decide)]
      refine ⟨_, changed_fields, .scalar fun legal => ?_⟩
      rcases ignored with ⟨rfl, unread⟩ | ⟨rfl, unread⟩
      · simp [Condition.relevant, unread, agree "value2" (by decide)]
      · simp [Condition.relevant, unread, agree "value" (by decide)]

theorem exists_matches_array {quantifier : QuantifierKind} {count index number : Option Int}
    {predicate : Value}
    (fields : HasFields entries (.array path quantifier count index predicate))
    (ignored : quantifier.Ignores key)
    (readable : Field.optionalInteger (valueOr (changed.lookup key)) = .ok number)
    (agree : AgreeExcept [key] entries changed) :
    ∃ other, HasFields changed other ∧
      Matches Condition.relevant (.array path quantifier count index predicate) other := by
  have elsewhere (name : String) (ne : name ∉ ["count", "index"]) :
      changed.lookup name = entries.lookup name := by
    refine agree name fun same => ne ?_
    rcases ignored with ⟨rfl, -⟩ | ⟨rfl, -⟩ <;> simp_all
  cases fields with
  | @array _ _ _ _ members kind path_given quantifier_named count_given index_given
      predicate_given =>
      have changed_fields {count index : Option Int}
          (count_given : Field.optionalInteger (valueOr (changed.lookup "count")) = .ok count)
          (index_given : Field.optionalInteger (valueOr (changed.lookup "index")) = .ok index) :
          HasFields changed (.array path quantifier count index (.mapping members)) := by
        refine .array (kind.of_lookup_eq (elsewhere "kind" (by decide))) ?_ ?_ count_given
          index_given ?_
        · rwa [elsewhere "path" (by decide)]
        · rwa [elsewhere "quantifier" (by decide)]
        · rwa [elsewhere "predicate" (by decide)]
      rcases ignored with ⟨rfl, unread⟩ | ⟨rfl, unread⟩
      · rw [← agree "index" (by decide)] at index_given
        exact ⟨_, changed_fields readable index_given,
          .array (by simp [unread]) (fun _ => rfl) (.refl _)⟩
      · rw [← agree "count" (by decide)] at count_given
        exact ⟨_, changed_fields count_given readable,
          .array (fun _ => rfl) (by simp [unread]) (.refl _)⟩

theorem exists_matches (differs : StrayChange entries changed) {document : NodeDocument}
    (fields : HasFields entries document) :
    ∃ other, HasFields changed other ∧ Matches Condition.relevant document other := by
  cases differs with
  | operand known ignored agree =>
      cases known.unique fields
      exact exists_matches_scalar fields ignored agree
  | number known ignored readable agree =>
      cases known.unique fields
      exact exists_matches_array fields ignored readable agree

end StrayChange

namespace RuleNode

/-- Rules that are the same up to operands that are not read have the same portable form and give
the same traces. -/
theorem portable_and_evaluate_eq_of_relevant {node other : RuleNode}
    (same : other.mapConditions Condition.relevant = node.mapConditions Condition.relevant) :
    other.portable = node.portable ∧
      ∀ settings document, other.evaluate settings document = node.evaluate settings document := by
  have portable (node : RuleNode) := node.portable_mapConditions Condition.portable_relevant
  have evaluated (settings : Settings) (node : RuleNode) (document : Value) :
      (node.mapConditions Condition.relevant).evaluate settings document =
        node.evaluate settings document :=
    evaluate_mapConditions (fun id condition _ => condition.evaluate_relevant settings id) document
  refine ⟨?_, fun settings document => ?_⟩
  · rw [← portable other, same, portable node]
  · rw [← evaluated settings other, same, evaluated settings node]

/-- Whatever stands in fields that nodes do not read, a document stays accepted, takes the same
identities, and gives a rule with the same portable form and the same traces. -/
theorem exists_run_ofPortable_of_strayChange {data changed : Value}
    (differs : Relation.ReflTransGen (ChangesNode StrayChange) data changed) {maxDepth : Int}
    {session last : Session} {node : RuleNode}
    (loaded : (ofPortable maxDepth data).run session = (.ok node, last)) :
    ∃ other, (ofPortable maxDepth changed).run session = (.ok other, last) ∧
      other.portable = node.portable ∧
        ∀ settings document,
          other.evaluate settings document = node.evaluate settings document := by
  have loads : LoadsInto Condition.relevant data changed := by
    clear loaded
    induction differs with
    | refl => exact .refl data
    | tail _ step ih =>
        exact ih.trans (step.loadsInto fun _ _ differs _ => differs.exists_matches)
  obtain ⟨other, again, same⟩ := loads _ _ _ _ _ _ loaded
  exact ⟨other, again, portable_and_evaluate_eq_of_relevant same⟩

/-- An array rule on any element, with something in the place of a count. -/
def anyDocument (count : Value) : Entries :=
  [("kind", .text "array"), ("path", .text "roles"), ("quantifier", .text "ANY"),
    ("count", count), ("predicate", .mapping [("kind", .text "group"), ("logic", .text "AND")])]

/-- A condition that a value is there, with something in the place of an operand. -/
def thereDocument (value : Value) : Entries :=
  [("kind", .text "scalar"), ("path", .text "badge"), ("valueType", .text "unknown"),
    ("op", .text "exists"), ("value", value)]

/-- A group of both. -/
def strayDocument (count value : Value) : Entries :=
  [("kind", .text "group"), ("logic", .text "OR"),
    ("children", .list [.mapping (anyDocument count), .mapping (thereDocument value)])]

theorem hasFields_anyDocument {count : Value} {number : Option Int}
    (readable : Field.optionalInteger count = .ok number) :
    NodeDocument.HasFields (anyDocument count)
      (.array "roles" .any number none
        (.mapping [("kind", .text "group"), ("logic", .text "AND")])) :=
  .array ⟨"array", rfl, by decide⟩ ⟨_, rfl, rfl⟩ ⟨_, rfl, rfl⟩ readable rfl rfl

theorem agreeExcept_anyDocument (count other : Value) :
    AgreeExcept ["count"] (anyDocument count) (anyDocument other) :=
  (((((AgreeExcept.refl _ _).before (by decide) count).symm.before (by decide) other).cons _).cons
    _).cons _

theorem exists_run_ofPortable_strayDocument :
    Relation.ReflTransGen (ChangesNode StrayChange)
        (.mapping (strayDocument .null .null))
        (.mapping (strayDocument (.text "4") (.list [.bytes [255]]))) ∧
      ∃ node other last,
        (ofPortable 32 (.mapping (strayDocument .null .null))).run (.fresh "r") =
            (.ok node, last) ∧
          (ofPortable 32 (.mapping (strayDocument (.text "4") (.list [.bytes [255]])))).run
              (.fresh "r") = (.ok other, last) ∧
            other.portable = node.portable ∧
              ∀ settings document,
                other.evaluate settings document = node.evaluate settings document := by
  have named (count value : Value) : NodeKind.group.IsNamedBy (strayDocument count value) :=
    ⟨"group", rfl, by decide⟩
  have agree (children others : Value) : AgreeExcept ["children"]
      [("kind", .text "group"), ("logic", .text "OR"), ("children", children)]
      [("kind", .text "group"), ("logic", .text "OR"), ("children", others)] :=
    ((((AgreeExcept.refl _ []).before (by decide) children).symm.before (by decide) others).cons
      _).cons _
  have counted : ChangesNode StrayChange (.mapping (strayDocument .null .null))
      (.mapping (strayDocument (.text "4") .null)) := by
    have items (count : Value) :
        (Value.list [.mapping (anyDocument count), .mapping (thereDocument .null)]).items? =
          some ([] ++ .mapping (anyDocument count) :: [.mapping (thereDocument .null)]) := rfl
    have readable : Field.optionalInteger (.text "4") = .ok (some 4) := rfl
    exact .child (named _ _) (.inl rfl) rfl (items _) rfl (items _) (agree _ _)
      (.here (.number (hasFields_anyDocument rfl) (.inl ⟨rfl, rfl⟩) readable
        (agreeExcept_anyDocument _ _)))
  have filled : ChangesNode StrayChange (.mapping (strayDocument (.text "4") .null))
      (.mapping (strayDocument (.text "4") (.list [.bytes [255]]))) := by
    have items (value : Value) :
        (Value.list [.mapping (anyDocument (.text "4")), .mapping (thereDocument value)]).items? =
          some ([.mapping (anyDocument (.text "4"))] ++ .mapping (thereDocument value) :: []) := rfl
    have fields : NodeDocument.HasFields (thereDocument .null)
        (.scalar "badge" .unknown .exists .null .null) :=
      .scalar ⟨"scalar", rfl, by decide⟩ ⟨_, rfl, rfl⟩ ⟨_, rfl, rfl⟩ ⟨_, rfl, rfl⟩
    have others : AgreeExcept ["value"] (thereDocument .null)
        (thereDocument (.list [.bytes [255]])) :=
      ((((((AgreeExcept.refl _ []).before (by decide) _).symm.before (by decide) _).cons _).cons
        _).cons _).cons _
    exact .child (named _ _) (.inl rfl) rfl (items _) rfl (items _) (agree _ _)
      (.here (.operand fields (.inl ⟨rfl, rfl⟩) others))
  have differs := (Relation.ReflTransGen.single counted).tail filled
  obtain ⟨node, last, loaded⟩ : ∃ node last,
      (ofPortable 32 (.mapping (strayDocument .null .null))).run (.fresh "r") =
        (.ok node, last) := ⟨_, _, rfl⟩
  obtain ⟨other, again, same⟩ := exists_run_ofPortable_of_strayChange differs loaded
  exact ⟨differs, node, other, last, loaded, again, same⟩

/-- A word in the place of a count is refused, even where no count is read. -/
theorem not_forall_exists_run_ofPortable_of_stray_count :
    ¬ ∀ (entries changed : Entries) (path : String) (quantifier : QuantifierKind)
      (count index : Option Int) (predicate : Value),
      NodeDocument.HasFields entries (.array path quantifier count index predicate) →
        quantifier.readsCount = false → AgreeExcept ["count"] entries changed →
          ∀ maxDepth session node last,
            (ofPortable maxDepth (.mapping entries)).run session = (.ok node, last) →
              ∃ other final,
                (ofPortable maxDepth (.mapping changed)).run session = (.ok other, final) := by
  intro accepts
  obtain ⟨node, last, loaded⟩ : ∃ node last,
      (ofPortable 32 (.mapping (anyDocument .null))).run (.fresh "r") = (.ok node, last) :=
    ⟨_, _, rfl⟩
  obtain ⟨other, final, impossible⟩ := accepts _ _ _ _ _ _ _ (hasFields_anyDocument rfl) rfl
    (agreeExcept_anyDocument .null (.text "many")) 32 (.fresh "r") node last loaded
  obtain ⟨fault, refused⟩ : ∃ fault,
      (ofPortable 32 (.mapping (anyDocument (.text "many")))).run (.fresh "r") =
        (.error fault, .fresh "r") := ⟨_, rfl⟩
  rw [refused] at impossible
  cases impossible

end RuleNode

end Rulebook
