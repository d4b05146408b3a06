import Rulebook.Proofs.Results
import Rulebook.Rule.Load

/-!
# The fields of a node

When the entries of a node of a rule document stand for its fields, field by field.  Reading a node
succeeds exactly when its entries do, and then gives these fields.
-/

namespace Rulebook

/-- Whether a value is given that passes a test. -/
def Given (value : Option Value) (passes : Value → Prop) : Prop :=
  ∃ given, value = some given ∧ passes given

/-- Whether a value is a name once the letter case of texts is changed. -/
def Value.Names (change : String → String) (name : String) (given : Value) : Prop :=
  Field.text (NodeDocument.mapText change given) = .ok name

/-- Whether a value names an operator: a text in any letter case, bytes as they are. -/
def Value.NamesOperator (operator : Operator) (given : Value) : Prop :=
  match given with
  | .text word => Text.lower word = Text.lower operator.name
  | given => Field.text given = .ok operator.name

/-- Whether entries say that their node is of a kind, in any letter case. -/
def NodeKind.IsNamedBy (kind : NodeKind) (entries : List (String × Value)) : Prop :=
  ∃ text, entries.lookup "kind" = some (.text text) ∧ Text.lower text = kind.name

/-- Whether children are the ones given: a sequence, or none when nothing or null is given. -/
def Value.Lists (given : Option Value) (children : List Value) : Prop :=
  match given with
  | none | some .null => children = []
  | some (.list items) | some (.tuple items) => children = items
  | some _ => False

namespace NodeDocument

/-- Whether the entries of a node stand for its fields. -/
inductive HasFields (entries : List (String × Value)) : NodeDocument → Prop where
  | group {logic : Logic} {children : List Value}
      (kind : NodeKind.group.IsNamedBy entries)
      (logic_named : Given (entries.lookup "logic") (Value.Names Text.upper logic.name))
      (children_listed : Value.Lists
        ((entries.lookup "children").or (entries.lookup "rules")) children) :
      HasFields entries (.group logic children)
  | scalar {path : String} {type : ValueType} {operator : Operator}
      (kind : NodeKind.scalar.IsNamedBy entries)
      (path_given : Given (entries.lookup "path") (Field.text · = .ok path))
      (type_named : Given ((entries.lookup "valueType").or (entries.lookup "valuetype"))
        (Value.Names Text.lower type.name))
      (operator_named : Given (entries.lookup "op") (Value.NamesOperator operator)) :
      HasFields entries (.scalar path type operator (valueOr (entries.lookup "value"))
        (valueOr (entries.lookup "value2")))
  | array {path : String} {quantifier : QuantifierKind} {count index : Option Int}
      {predicate : List (String × Value)}
      (kind : NodeKind.array.IsNamedBy entries)
      (path_given : Given (entries.lookup "path") (Field.text · = .ok path))
      (quantifier_named : Given (entries.lookup "quantifier")
        (Value.Names Text.upper quantifier.name))
      (count_given : Field.optionalInteger (valueOr (entries.lookup "count")) = .ok count)
      (index_given : Field.optionalInteger (valueOr (entries.lookup "index")) = .ok index)
      (predicate_given : entries.lookup "predicate" = some (.mapping predicate)) :
      HasFields entries (.array path quantifier count index (.mapping predicate))

end NodeDocument

/-! ## Names -/

theorem NodeKind.ofValue?_eq_some {named : Value} {kind : NodeKind} :
    NodeKind.ofValue? named = some kind ↔
      ∃ text, named = .text text ∧ Text.lower text = kind.name := by
  constructor
  · intro found
    cases named with
    | text text =>
        have same := List.find?_some found
        exact ⟨text, rfl, (eq_of_beq same).symm⟩
    | _ => cases found
  · rintro ⟨text, rfl, same⟩
    rw [NodeKind.ofValue?, same]
    cases kind <;> rfl

theorem NodeKind.ofValue?_lookup {entries : List (String × Value)} {kind : NodeKind} :
    NodeKind.ofValue? ((entries.lookup "kind").getD .null) = some kind ↔
      kind.IsNamedBy entries := by
  rw [ofValue?_eq_some]
  constructor
  · rintro ⟨text, given, same⟩
    cases found : entries.lookup "kind" with
    | none =>
        rw [found] at given
        cases given
    | some value =>
        rw [found] at given
        exact ⟨text, found.trans (congrArg some given), same⟩
  · rintro ⟨text, found, same⟩
    exact ⟨text, by rw [found]; rfl, same⟩

/-- A member of a family is looked up by the name that it is found under. -/
theorem find?_name_eq_some {α : Type} {members : List α} {name : α → String}
    (finds : ∀ member, members.find? (name · == name member) = some member) {text : String}
    {member : α} : members.find? (name · == text) = some member ↔ name member = text := by
  constructor
  · intro found
    have same := List.find?_some found
    exact eq_of_beq same
  · rintro rfl
    exact finds member

theorem Field.member_eq_ok {α : Type} {names : List String} {ofName? : String → Option α}
    {name : α → String} (finds : ∀ text member, ofName? text = some member ↔ name member = text)
    {value : Value} {found : α} :
    Field.member names ofName? value = .ok found ↔ Field.text value = .ok (name found) := by
  rw [Field.member]
  cases Field.text value with
  | error problem => simp
  | ok text =>
      rw [Except.ok.injEq, @eq_comm _ text, ← finds]
      change (ofName? text).elim _ Except.ok = _ ↔ _
      cases ofName? text <;> simp

namespace NodeDocument

theorem operatorNamed?_eq_some {text : String} {operator : Operator} :
    operatorNamed? text = some operator ↔ Text.lower text = Text.lower operator.name := by
  constructor
  · intro found
    have same := List.find?_some found
    exact (eq_of_beq same).symm
  · intro same
    rw [operatorNamed?, same]
    cases operator <;> rfl

theorem operator_eq_ok {value : Value} {found : Operator} :
    operator value = .ok found ↔ value.NamesOperator found := by
  have finds : ∀ text operator, Operator.ofName? text = some operator ↔ operator.name = text :=
    fun _ _ => find?_name_eq_some fun member => by cases member <;> rfl
  cases value with
  | text word =>
      rw [operator, Value.NamesOperator, ← operatorNamed?_eq_some]
      cases operatorNamed? word <;> simp
  | _ =>
      simp only [operator, Value.NamesOperator]
      exact Field.member_eq_ok finds

theorem logic_eq_ok {value : Value} {found : Logic} :
    logic value = .ok found ↔ value.Names Text.upper found.name := by
  have finds : ∀ text logic, Logic.ofName? text = some logic ↔ logic.name = text :=
    fun _ _ => find?_name_eq_some fun member => by cases member <;> rfl
  exact Field.member_eq_ok finds

theorem quantifier_eq_ok {value : Value} {found : QuantifierKind} :
    quantifier value = .ok found ↔ value.Names Text.upper found.name := by
  have finds : ∀ text kind, QuantifierKind.ofName? text = some kind ↔ kind.name = text :=
    fun _ _ => find?_name_eq_some fun member => by cases member <;> rfl
  exact Field.member_eq_ok finds

theorem valueType_eq_ok {value : Value} {found : ValueType} :
    valueType value = .ok found ↔ value.Names Text.lower found.name := by
  have finds : ∀ text type, ValueType.ofName? text = some type ↔ type.name = text :=
    fun _ _ => find?_name_eq_some fun member => by cases member <;> rfl
  exact Field.member_eq_ok finds

/-! ## Fields -/

theorem required_eq_ok {α : Type} {read : Value → Field.Read α} {given : Option Value}
    {result : α} {passes : Value → Prop} (iff : ∀ value, read value = .ok result ↔ passes value) :
    required read given = .ok result ↔ Given given passes := by
  cases given <;> simp [required, Given, iff]

theorem either_snd (first second : String) (entries : List (String × Value)) :
    (either first second entries).2 = (entries.lookup first).or (entries.lookup second) := by
  rw [either]
  cases entries.lookup first <;> cases entries.lookup second <;> rfl

theorem children_eq_ok {given : Option Value} {documents : List Value} :
    children (valueOr given) = .ok documents ↔ Value.Lists given documents := by
  rcases given with _ | value
  · exact ⟨fun found => (Except.ok.inj found).symm, fun same => congrArg _ (Eq.symm same)⟩
  · cases value with
    | null | list | tuple =>
        exact ⟨fun found => (Except.ok.inj found).symm, fun same => congrArg _ (Eq.symm same)⟩
    | _ => exact ⟨fun found => (nomatch found), fun impossible => impossible.elim⟩

theorem predicate_eq_ok {given : Option Value} {document : Value} :
    required predicate given = .ok document ↔
      ∃ entries, given = some (.mapping entries) ∧ document = .mapping entries := by
  rcases given with _ | value
  · simp [required]
  · cases value with
    | mapping entries => simp [required, predicate, Field.entries, Except.map, eq_comm]
    | _ => simp [required, predicate, Field.entries, Except.map]

theorem hasFields_of_read {kind : NodeKind} {entries : List (String × Value)}
    {document : NodeDocument} (named : kind.IsNamedBy entries)
    (found : read kind entries = .ok document) : HasFields entries document := by
  cases kind with
  | group =>
      rw [read] at found
      dsimp only at found
      split at found
      · rename_i logic children first second
        cases found
        rw [either_snd, children_eq_ok] at second
        exact .group named ((required_eq_ok fun _ => logic_eq_ok).mp first) second
      · cases found
  | scalar =>
      rw [read] at found
      dsimp only at found
      split at found
      · rename_i path type operator first second third
        cases found
        rw [either_snd] at second
        exact .scalar named ((required_eq_ok fun _ => Iff.rfl).mp first)
          ((required_eq_ok fun _ => valueType_eq_ok).mp second)
          ((required_eq_ok fun _ => operator_eq_ok).mp third)
      · cases found
  | array =>
      rw [read] at found
      dsimp only at found
      split at found
      · rename_i path quantifier count index predicate first second third fourth fifth
        cases found
        obtain ⟨members, given, rfl⟩ := predicate_eq_ok.mp fifth
        exact .array named ((required_eq_ok fun _ => Iff.rfl).mp first)
          ((required_eq_ok fun _ => quantifier_eq_ok).mp second) third fourth given
      · cases found

theorem exists_read_of_hasFields {entries : List (String × Value)} {document : NodeDocument}
    (fields : HasFields entries document) :
    ∃ kind, NodeKind.IsNamedBy kind entries ∧ read kind entries = .ok document := by
  cases fields with
  | group kind logic_named children_listed =>
      refine ⟨.group, kind, ?_⟩
      rw [read]
      simp only [(required_eq_ok fun _ => logic_eq_ok).mpr logic_named, either_snd,
        children_eq_ok.mpr children_listed]
  | scalar kind path_given type_named operator_named =>
      refine ⟨.scalar, kind, ?_⟩
      rw [read]
      simp only [(required_eq_ok fun _ => Iff.rfl).mpr path_given, either_snd,
        (required_eq_ok fun _ => valueType_eq_ok).mpr type_named,
        (required_eq_ok fun _ => operator_eq_ok).mpr operator_named]
  | array kind path_given quantifier_named count_given index_given predicate_given =>
      refine ⟨.array, kind, ?_⟩
      rw [read]
      simp only [(required_eq_ok fun _ => Iff.rfl).mpr path_given,
        (required_eq_ok fun _ => quantifier_eq_ok).mpr quantifier_named, count_given, index_given,
        predicate_eq_ok.mpr ⟨_, predicate_given, rfl⟩]

end NodeDocument

/-- A node is read exactly when it is a mapping whose entries stand for its fields. -/
theorem RuleNode.readNode_eq_ok {location : String} {data : Value} {document : NodeDocument} :
    readNode location data = .ok document ↔
      ∃ entries, data = .mapping entries ∧ NodeDocument.HasFields entries document := by
  constructor
  · intro found
    cases data with
    | mapping entries =>
        refine ⟨entries, rfl, ?_⟩
        rw [readNode] at found
        split at found
        · rename_i kind named
          cases outcome : NodeDocument.read kind entries with
          | error issues =>
              rw [outcome] at found
              cases found
          | ok fields =>
              rw [outcome] at found
              cases found
              exact NodeDocument.hasFields_of_read (NodeKind.ofValue?_lookup.mp named) outcome
        · obtain ⟨shown, -, impossible⟩ := Except.bind_eq_ok.mp found
          cases impossible
    | _ => cases found
  · rintro ⟨entries, rfl, fields⟩
    obtain ⟨kind, named, read⟩ := NodeDocument.exists_read_of_hasFields fields
    simp only [readNode, NodeKind.ofValue?_lookup.mpr named, read, Except.mapError]

end Rulebook
