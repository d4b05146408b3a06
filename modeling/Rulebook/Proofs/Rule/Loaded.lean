import Rulebook.Proofs.Rule.Fields
import Rulebook.Proofs.Rule.Reloading

/-!
# Loaded rules

A rule that has been loaded is numbered by the session that it was loaded in, its paths are texts
and it is not nested more deeply than its document may be.  Loaded from a document of JSON values,
it has operands that are their own portable form.
-/

namespace Rulebook

namespace Value

mutual

/-- Whether a value is made of JSON values only. -/
def isJson : Value → Bool
  | null | bool _ | int _ | float _ | text _ => true
  | list items => areJson items
  | mapping entries => entriesAreJson entries
  | absent | tuple _ | date _ | dateTime _ | bytes _ => false

/-- Whether the elements of a sequence are made of JSON values only. -/
def areJson : List Value → Bool
  | [] => true
  | item :: items => isJson item && areJson items

/-- Whether the values of a mapping are made of JSON values only. -/
def entriesAreJson : List (String × Value) → Bool
  | [] => true
  | (_, value) :: entries => isJson value && entriesAreJson entries

end

theorem areJson_iff {items : List Value} :
    areJson items = true ↔ ∀ item ∈ items, item.isJson = true := by
  induction items with
  | nil => simp [areJson]
  | cons item items ih => rw [areJson, Bool.and_eq_true, ih, List.forall_mem_cons]

theorem entriesAreJson_iff {entries : List (String × Value)} :
    entriesAreJson entries = true ↔ ∀ entry ∈ entries, entry.2.isJson = true := by
  induction entries with
  | nil => simp [entriesAreJson]
  | cons entry entries ih => rw [entriesAreJson, Bool.and_eq_true, ih, List.forall_mem_cons]

theorem portable_of_isJson {value : Value} (json : value.isJson = true) :
    value.portable = value := by
  cases value <;> first | rfl | cases json

end Value

namespace NodeDocument

/-- The values that the fields of a node hold: children, operands or a predicate. -/
def values : NodeDocument → List Value
  | group _ children => children
  | scalar _ _ _ value value2 => [value, value2]
  | array _ _ _ _ predicate => [predicate]

theorem holds_of_lookup (holds : Value → Prop) {entries : List (String × Value)}
    (each : ∀ entry ∈ entries, holds entry.2) {key : String} {value : Value}
    (found : entries.lookup key = some value) : holds value := by
  obtain ⟨before, after, rfl, -⟩ := List.lookup_eq_some_iff.mp found
  exact each (key, value) (List.mem_append_right before List.mem_cons_self)

/-- What holds of null and of the values of a node, and passes on to the elements of sequences,
holds of the values that its fields hold. -/
theorem HasFields.forall_values {holds : Value → Prop} {entries : List (String × Value)}
    {document : NodeDocument} (fields : HasFields entries document)
    (each : ∀ entry ∈ entries, holds entry.2) (null : holds .null)
    (items : ∀ value parts, value.items? = some parts → holds value → ∀ part ∈ parts, holds part) :
    ∀ value ∈ document.values, holds value := by
  cases fields with
  | @group logic children kind logic_named listed =>
      revert listed
      cases given : (entries.lookup "children").or (entries.lookup "rules") with
      | none =>
          rintro rfl
          exact List.forall_mem_nil _
      | some value =>
          intro listed
          have here : holds value := by
            rcases Option.or_eq_some_iff.mp given with found | ⟨-, found⟩
            · exact holds_of_lookup holds each found
            · exact holds_of_lookup holds each found
          cases value with
          | null =>
              cases listed
              exact List.forall_mem_nil _
          | list parts | tuple parts =>
              cases listed
              exact items _ _ rfl here
          | _ => exact listed.elim
  | scalar =>
      have operand (key : String) : holds (valueOr (entries.lookup key)) := by
        cases found : entries.lookup key with
        | none => exact null
        | some value => exact holds_of_lookup holds each found
      exact List.forall_mem_cons.mpr
        ⟨operand "value", List.forall_mem_singleton.mpr (operand "value2")⟩
  | array _ _ _ _ _ given => exact List.forall_mem_singleton.mpr (holds_of_lookup holds each given)

end NodeDocument

namespace RuleNode

/-- The fields of a node of JSON values hold JSON values. -/
theorem isJson_of_readNode {location : String} {data : Value} {document : NodeDocument}
    (json : data.isJson = true) (found : readNode location data = .ok document) :
    ∀ value ∈ document.values, value.isJson = true := by
  obtain ⟨entries, rfl, fields⟩ := readNode_eq_ok.mp found
  refine fields.forall_values (Value.entriesAreJson_iff.mp json) rfl ?_
  intro value parts inside plain
  cases value with
  | list items =>
      cases inside
      exact Value.areJson_iff.mp plain
  | tuple items => cases plain
  | _ => cases inside

/-- Whether the operands in a rule are their own portable form. -/
def HasPortableOperands (root : RuleNode) : Prop :=
  ∀ id condition, scalar id condition ∈ root.nodes →
    condition.value.portable = condition.value ∧ condition.value2.portable = condition.value2

/-- What is known of a rule that has been loaded over at most `depth` levels from a document, in
a session and up to another one. -/
structure IsLoaded (depth : Nat) (data : Value) (session : Session) (node : RuleNode)
    (last : Session) : Prop where
  numbered : node.renumber session = (node, last)
  texts : node.HasTextPaths
  shallow : node.depth ≤ depth
  operands : data.isJson = true → node.HasPortableOperands

/-- What is known of several rules that have been loaded one after the other. -/
structure AreLoaded (depth : Nat) (documents : List Value) (session : Session)
    (nodes : List RuleNode) (last : Session) : Prop where
  numbered : renumberAll nodes session = (nodes, last)
  texts : ∀ node ∈ nodes, node.HasTextPaths
  shallow : depthBelow nodes ≤ depth
  operands : (∀ document ∈ documents, document.isJson = true) →
    ∀ node ∈ nodes, node.HasPortableOperands

theorem areLoaded_of_loadChildren {loadChild : String → Value → Issuing RuleNode} {depth : Nat}
    (each : ∀ location data session node last,
      (loadChild location data).run session = (.ok node, last) →
        IsLoaded depth data session node last)
    {location : String} {position : Nat} {documents : List Value} {session last : Session}
    {nodes : List RuleNode}
    (loaded : (loadChildren loadChild location position documents).run session =
      (.ok nodes, last)) :
    AreLoaded depth documents session nodes last := by
  induction documents generalizing position session nodes with
  | nil =>
      cases loaded
      exact ⟨rfl, by simp, Nat.zero_le _, by simp⟩
  | cons document documents ih =>
      obtain ⟨node, between, first, rest⟩ := ExceptT.bind_eq_ok.mp loaded
      obtain ⟨others, final, later, made⟩ := ExceptT.bind_eq_ok.mp rest
      cases made
      have here := each _ _ _ _ _ first
      have there := ih later
      refine ⟨?_, ?_, Nat.max_le.mpr ⟨here.shallow, there.shallow⟩, ?_⟩
      · simp only [renumberAll, here.numbered, there.numbered]
      · exact List.forall_mem_cons.mpr ⟨here.texts, there.texts⟩
      · intro json
        obtain ⟨first, others⟩ := List.forall_mem_cons.mp json
        exact List.forall_mem_cons.mpr ⟨here.operands first, there.operands others⟩

theorem IsLoaded.group {depth : Nat} {data : Value} {documents : List Value}
    {session last : Session} {logic : Logic} {children : List RuleNode}
    (json : data.isJson = true → ∀ document ∈ documents, document.isJson = true)
    (below : AreLoaded depth documents session.advance children last) :
    IsLoaded (depth + 1) data session (.group session.next logic children) last where
  numbered := by simp only [renumber, below.numbered]
  texts := by
    intro node member path given
    rcases mem_nodes_group.mp member with rfl | ⟨child, among, member⟩
    · cases given
    · exact below.texts child among node member path given
  shallow := Nat.succ_le_succ below.shallow
  operands := by
    intro plain id condition member
    rcases mem_nodes_group.mp member with impossible | ⟨child, among, member⟩
    · cases impossible
    · exact below.operands (json plain) child among id condition member

theorem IsLoaded.array {depth : Nat} {data document : Value} {session last : Session}
    {path predicateId : String} {quantifier : Quantifier} {logic : Logic}
    {children : List RuleNode} (json : data.isJson = true → document.isJson = true)
    (below : IsLoaded depth document session.advance (.group predicateId logic children) last) :
    IsLoaded (depth + 1) data session
      (.array session.next (.text path) quantifier predicateId logic children) last where
  numbered := by
    have numbered := below.numbered
    simp only [renumber, Prod.mk.injEq, RuleNode.group.injEq] at numbered
    obtain ⟨⟨named, -, same⟩, rest⟩ := numbered
    simp only [renumber, named, same, rest]
  texts := by
    intro node member found given
    rcases mem_nodes_array.mp member with rfl | among
    · cases given
      exact ⟨path, rfl⟩
    · exact below.texts node (mem_nodes_group.mpr among) found given
  shallow := Nat.succ_le_succ below.shallow
  operands := by
    intro plain id condition member
    rcases mem_nodes_array.mp member with impossible | among
    · cases impossible
    · exact below.operands (json plain) id condition (mem_nodes_group.mpr among)

theorem make_eq_ok {path : Value} {type : ValueType} {operator : Operator}
    {value value2 : Value} {condition : Condition}
    (made : Condition.make path type operator value value2 = .ok condition) :
    condition.path = path ∧ condition.value = value ∧ condition.value2 = value2 := by
  rw [Condition.make] at made
  split at made <;> cases made
  exact ⟨rfl, rfl, rfl⟩

theorem arrayOver_eq_ok {id location path : String} {kind : QuantifierKind}
    {count index : Option Int} {predicate node : RuleNode}
    (made : arrayOver id location path kind count index predicate = .ok node) :
    ∃ quantifier predicateId logic children, predicate = .group predicateId logic children ∧
      node = .array id (.text path) quantifier predicateId logic children := by
  cases predicate with
  | group predicateId logic children =>
      rw [arrayOver] at made
      split at made <;> cases made
      exact ⟨_, predicateId, logic, children, rfl, rfl⟩
  | scalar id condition => cases made
  | array => cases made

/-- Whatever is loaded is numbered by its session, has texts as paths and is not nested too
deeply. -/
theorem isLoaded_of_load {maxDepth : Int} {depth : Nat} {location : String} {data : Value}
    {session last : Session} {node : RuleNode}
    (loaded : (load maxDepth depth location data).run session = (.ok node, last)) :
    IsLoaded depth data session node last := by
  induction depth generalizing location data session node last with
  | zero => cases loaded
  | succ depth ih =>
      obtain ⟨document, read, made⟩ := load_eq_ok.mp loaded
      have json := fun plain => isJson_of_readNode plain read
      cases document with
      | group logic documents =>
          obtain ⟨children, between, below, done⟩ := ExceptT.bind_eq_ok.mp made
          cases done
          exact .group json (areLoaded_of_loadChildren (fun _ _ _ _ _ => ih) below)
      | scalar path type operator value value2 =>
          rw [assemble] at made
          split at made
          · rename_i condition checked
            cases made
            obtain ⟨isText, first, second⟩ := make_eq_ok checked
            refine ⟨rfl, ?_, Nat.le_add_left 1 depth, ?_⟩
            · intro node member found given
              cases List.mem_singleton.mp member
              cases given
              exact ⟨path, isText⟩
            · intro plain id found member
              cases List.mem_singleton.mp member
              have values := json plain
              rw [first, second]
              exact ⟨Value.portable_of_isJson (values value (by simp [NodeDocument.values])),
                Value.portable_of_isJson (values value2 (by simp [NodeDocument.values]))⟩
          · cases made
      | array path kind count index predicate =>
          obtain ⟨predicateNode, between, below, done⟩ := ExceptT.bind_eq_ok.mp made
          obtain ⟨quantifier, predicateId, logic, children, rfl, rfl⟩ :=
            arrayOver_eq_ok (congrArg Prod.fst done)
          cases show between = last from congrArg Prod.snd done
          exact .array (fun plain => json plain predicate (by simp [NodeDocument.values]))
            (ih below)

/-- The portable form of a loaded rule is accepted in any session. -/
theorem ofPortable_portable {maxDepth : Int} {data : Value} {session last : Session}
    {node : RuleNode} (loaded : (ofPortable maxDepth data).run session = (.ok node, last)) :
    (ofPortable maxDepth node.portable).Yields node.canonical := by
  have known := isLoaded_of_load loaded
  exact load_portable known.texts known.shallow "$"

/-- Loaded in the same session as the rule itself, it has the same identities. -/
theorem run_ofPortable_portable {maxDepth : Int} {data : Value} {session last : Session}
    {node : RuleNode} (loaded : (ofPortable maxDepth data).run session = (.ok node, last)) :
    (ofPortable maxDepth node.portable).run session = (.ok node.canonical, last) := by
  rw [ofPortable_portable loaded session, renumber_canonical,
    (isLoaded_of_load loaded).numbered]

end RuleNode

end Rulebook
