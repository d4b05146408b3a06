import Mathlib.Logic.Relation
import Rulebook.Proofs.Rule.Acceptance

/-!
# Changed documents

A rule document is changed at one of its nodes: the root, or a node below it that loading gets to.
When the fields of that node stay what they are, up to what is looked at in a condition, so does
everything that is loaded.
-/

namespace Rulebook

/-- The entries of a mapping. -/
abbrev Entries := List (String × Value)

/-- Whether entries are the same under all keys but some. -/
def AgreeExcept (keys : List String) (entries changed : Entries) : Prop :=
  ∀ key, key ∉ keys → changed.lookup key = entries.lookup key

namespace AgreeExcept

variable {keys : List String} {entries changed : Entries}

theorem refl (keys : List String) (entries : Entries) : AgreeExcept keys entries entries :=
  fun _ _ => rfl

theorem symm (agree : AgreeExcept keys entries changed) : AgreeExcept keys changed entries :=
  fun key other => (agree key other).symm

theorem cons (agree : AgreeExcept keys entries changed) (entry : String × Value) :
    AgreeExcept keys (entry :: entries) (entry :: changed) := by
  intro key other
  rw [List.lookup_cons, List.lookup_cons, agree key other]

/-- One of the keys may come before the others. -/
theorem before {name : String} (among : name ∈ keys) (agree : AgreeExcept keys entries changed)
    (value : Value) : AgreeExcept keys entries ((name, value) :: changed) := by
  intro key other
  have ne : (key == name) = false := beq_false_of_ne fun same => other (same ▸ among)
  rw [List.lookup_cons, ne, agree key other]

end AgreeExcept

theorem NodeKind.IsNamedBy.of_lookup_eq {kind : NodeKind} {entries changed : Entries}
    (named : kind.IsNamedBy entries) (same : changed.lookup "kind" = entries.lookup "kind") :
    kind.IsNamedBy changed := by
  rw [IsNamedBy, same]
  exact named

/-- Whether a group has its children under a name: under the older one when nothing is there under
`children`. -/
def HasChildrenUnder (name : String) (entries : Entries) : Prop :=
  name = "children" ∨ name = "rules" ∧ entries.lookup "children" = none

namespace HasChildrenUnder

variable {name : String} {entries changed : Entries}

theorem ne_kind (under : HasChildrenUnder name entries) : "kind" ∉ [name] := by
  rcases under with rfl | ⟨rfl, -⟩ <;> simp

theorem of_agreeExcept (under : HasChildrenUnder name entries)
    (agree : AgreeExcept [name] entries changed) : HasChildrenUnder name changed := by
  rcases under with rfl | ⟨rfl, missing⟩
  · exact .inl rfl
  · exact .inr ⟨rfl, by rw [agree "children" (by simp), missing]⟩

theorem or_eq {given : Value} (under : HasChildrenUnder name entries)
    (found : entries.lookup name = some given) :
    (entries.lookup "children").or (entries.lookup "rules") = some given := by
  rcases under with rfl | ⟨rfl, missing⟩
  · rw [found, Option.some_or]
  · rw [missing, found, Option.none_or]

end HasChildrenUnder

/-- Whether the entries of one node of a document are changed: of the root, of a child of a group
or of the predicate of an array rule, or of a node below these. -/
inductive ChangesNode (change : Entries → Entries → Prop) : Value → Value → Prop where
  | here {entries changed : Entries} (differs : change entries changed) :
      ChangesNode change (.mapping entries) (.mapping changed)
  | child {entries changed : Entries} {name : String} {given other left right : Value}
      {before after : List Value} (kind : NodeKind.group.IsNamedBy entries)
      (under : HasChildrenUnder name entries) (given_at : entries.lookup name = some given)
      (items : given.items? = some (before ++ left :: after))
      (changed_at : changed.lookup name = some other)
      (changed_items : other.items? = some (before ++ right :: after))
      (agree : AgreeExcept [name] entries changed) (below : ChangesNode change left right) :
      ChangesNode change (.mapping entries) (.mapping changed)
  | predicate {entries changed : Entries} {left right : Value}
      (kind : NodeKind.array.IsNamedBy entries)
      (given_at : entries.lookup "predicate" = some left)
      (changed_at : changed.lookup "predicate" = some right)
      (agree : AgreeExcept ["predicate"] entries changed) (below : ChangesNode change left right) :
      ChangesNode change (.mapping entries) (.mapping changed)

namespace RuleNode

/-! ## Loading what has been changed -/

/-- Whether a document is accepted wherever another one is, takes the same identities and gives the
same rule, as far as conditions are looked at. -/
def LoadsInto (view : Condition → Condition) (data changed : Value) : Prop :=
  ∀ maxDepth depth location session node last,
    (load maxDepth depth location data).run session = (.ok node, last) →
      ∃ other, (load maxDepth depth location changed).run session = (.ok other, last) ∧
        other.mapConditions view = node.mapConditions view

namespace LoadsInto

variable {view : Condition → Condition}

theorem refl (data : Value) : LoadsInto view data data :=
  fun _ _ _ _ node _ loaded => ⟨node, loaded, rfl⟩

theorem trans {data between changed : Value} (first : LoadsInto view data between)
    (second : LoadsInto view between changed) : LoadsInto view data changed := by
  intro maxDepth depth location session node last loaded
  obtain ⟨middle, loaded, same⟩ := first _ _ _ _ _ _ loaded
  obtain ⟨other, loaded, also_same⟩ := second _ _ _ _ _ _ loaded
  exact ⟨other, loaded, also_same.trans same⟩

/-- When conditions are looked at as they are, the very same rule is loaded. -/
theorem load_eq {data changed : Value} (loads : LoadsInto (fun condition => condition) data changed)
    {maxDepth : Int} {depth : Nat} {location : String} {session last : Session} {node : RuleNode}
    (loaded : (load maxDepth depth location data).run session = (.ok node, last)) :
    (load maxDepth depth location changed).run session = (.ok node, last) := by
  obtain ⟨other, loaded, same⟩ := loads _ _ _ _ _ _ loaded
  rw [mapConditions_self, mapConditions_self] at same
  rwa [same] at loaded

end LoadsInto

/-- Whether the fields of two nodes give the same rule, as far as conditions are looked at. -/
inductive Matches (view : Condition → Condition) : NodeDocument → NodeDocument → Prop where
  | group {logic : Logic} {children others : List Value}
      (below : List.Forall₂ (LoadsInto view) children others) :
      Matches view (.group logic children) (.group logic others)
  | scalar {path : String} {type : ValueType} {operator : Operator}
      {value value2 other other2 : Value}
      (seen : ∀ legal, view ⟨.text path, type, operator, other, other2, legal⟩ =
        view ⟨.text path, type, operator, value, value2, legal⟩) :
      Matches view (.scalar path type operator value value2)
        (.scalar path type operator other other2)
  | array {path : String} {quantifier : QuantifierKind}
      {count otherCount index otherIndex : Option Int} {predicate other : Value}
      (count_same : quantifier.readsCount = true → otherCount = count)
      (index_same : quantifier.readsIndex = true → otherIndex = index)
      (below : LoadsInto view predicate other) :
      Matches view (.array path quantifier count index predicate)
        (.array path quantifier otherCount otherIndex other)

variable {view : Condition → Condition}

theorem Matches.refl (document : NodeDocument) : Matches view document document := by
  cases document with
  | group logic children => exact .group (List.forall₂_same.mpr fun child _ => .refl child)
  | scalar path type operator value value2 => exact .scalar fun _ => rfl
  | array path quantifier count index predicate =>
      exact .array (fun _ => rfl) (fun _ => rfl) (.refl predicate)

theorem exists_loadChildren_of_forall₂ {maxDepth : Int} {depth : Nat} {location : String}
    {children others : List Value} (each : List.Forall₂ (LoadsInto view) children others)
    {position : Nat} {session last : Session} {nodes : List RuleNode}
    (loaded : (loadChildren (load maxDepth depth) location position children).run session =
      (.ok nodes, last)) :
    ∃ changed,
      (loadChildren (load maxDepth depth) location position others).run session =
          (.ok changed, last) ∧
        mapConditionsAll view changed = mapConditionsAll view nodes := by
  induction each generalizing position session nodes with
  | nil => exact ⟨nodes, loaded, rfl⟩
  | cons here _ ih =>
      obtain ⟨node, between, first, rest⟩ := ExceptT.bind_eq_ok.mp loaded
      obtain ⟨nodes, final, later, done⟩ := ExceptT.bind_eq_ok.mp rest
      cases done
      obtain ⟨changedNode, changedFirst, same⟩ := here _ _ _ _ _ _ first
      obtain ⟨changed, changedLater, also_same⟩ := ih later
      refine ⟨changedNode :: changed, ExceptT.bind_eq_ok.mpr ⟨_, _, changedFirst,
        ExceptT.bind_eq_ok.mpr ⟨_, _, changedLater, rfl⟩⟩, ?_⟩
      rw [mapConditionsAll, mapConditionsAll, same, also_same]

/-- The children of a predicate are of no account when an array rule is made. -/
theorem arrayOver_of_matches {id location path : String} {kind : QuantifierKind}
    {count otherCount index otherIndex : Option Int} {predicate node other : RuleNode}
    (count_same : kind.readsCount = true → otherCount = count)
    (index_same : kind.readsIndex = true → otherIndex = index)
    (made : arrayOver id location path kind count index predicate = .ok node)
    (same : other.mapConditions view = predicate.mapConditions view) :
    ∃ changed, arrayOver id location path kind otherCount otherIndex other = .ok changed ∧
      changed.mapConditions view = node.mapConditions view := by
  obtain ⟨_, predicateId, logic, children, rfl, -⟩ := arrayOver_eq_ok made
  obtain ⟨others, rfl, below⟩ := exists_group_of_mapConditions same
  have counts : (if kind.readsCount then optionalNumber otherCount else .null) =
      if kind.readsCount then optionalNumber count else .null := by
    split
    · rw [count_same ‹_›]
    · rfl
  have indices : (if kind.readsIndex then optionalNumber otherIndex else .null) =
      if kind.readsIndex then optionalNumber index else .null := by
    split
    · rw [index_same ‹_›]
    · rfl
  rw [arrayOver] at made ⊢
  rw [counts, indices]
  split at made
  · cases made
    refine ⟨_, rfl, ?_⟩
    rw [mapConditions, mapConditions, below]
  · cases made

/-- Nodes are loaded alike when their fields match. -/
theorem loadsInto_of_matches {entries changed : Entries}
    (fields : ∀ document, NodeDocument.HasFields entries document →
      ∃ other, NodeDocument.HasFields changed other ∧ Matches view document other) :
    LoadsInto view (.mapping entries) (.mapping changed) := by
  intro maxDepth depth location session node last loaded
  cases depth with
  | zero => cases loaded
  | succ depth =>
      obtain ⟨document, read, made⟩ := load_eq_ok.mp loaded
      obtain ⟨_, ⟨⟩, known⟩ := readNode_eq_ok.mp read
      obtain ⟨other, changedFields, same⟩ := fields document known
      have changedRead : readNode location (.mapping changed) = .ok other :=
        readNode_eq_ok.mpr ⟨changed, rfl, changedFields⟩
      suffices remade : ∃ otherNode,
          (assemble maxDepth depth location session.next other).run session.advance =
              (.ok otherNode, last) ∧ otherNode.mapConditions view = node.mapConditions view by
        obtain ⟨otherNode, remade, seen⟩ := remade
        exact ⟨otherNode, load_eq_ok.mpr ⟨other, changedRead, remade⟩, seen⟩
      cases same with
      | group below =>
          obtain ⟨children, between, loaded, done⟩ := ExceptT.bind_eq_ok.mp made
          cases done
          obtain ⟨others, changedLoaded, seen⟩ := exists_loadChildren_of_forall₂ below loaded
          refine ⟨_, ExceptT.bind_eq_ok.mpr ⟨others, _, changedLoaded, rfl⟩, ?_⟩
          rw [mapConditions, mapConditions, seen]
      | scalar seen =>
          rw [assemble, Condition.make] at made ⊢
          split at made
          · rename_i condition checked
            split at checked
            · rename_i legal
              cases checked
              cases made
              refine ⟨_, by rw [dif_pos legal]; rfl, ?_⟩
              rw [mapConditions, mapConditions, seen legal]
            · cases checked
          · cases made
      | array count_same index_same below =>
          obtain ⟨predicate, between, loaded, done⟩ := ExceptT.bind_eq_ok.mp made
          obtain ⟨other, changedLoaded, seen⟩ := below _ _ _ _ _ _ loaded
          obtain ⟨otherNode, remade, same⟩ :=
            arrayOver_of_matches count_same index_same (congrArg Prod.fst done) seen
          cases show between = last from congrArg Prod.snd done
          refine ⟨otherNode, ExceptT.bind_eq_ok.mpr ⟨other, _, changedLoaded, ?_⟩, same⟩
          rw [remade]
          rfl

/-! ## Changes below the root -/

end RuleNode

namespace ChangesNode

variable {change : Entries → Entries → Prop} {data changed : Value}

theorem isMapping (changes : ChangesNode change data changed) :
    (∃ entries, data = .mapping entries) ∧ ∃ entries, changed = .mapping entries := by
  cases changes <;> exact ⟨⟨_, rfl⟩, _, rfl⟩

theorem symm (changes : ChangesNode change data changed) :
    ChangesNode (fun entries other => change other entries) changed data := by
  induction changes with
  | here differs => exact .here differs
  | child kind under given_at items changed_at changed_items agree _ ih =>
      have named := kind.of_lookup_eq (agree "kind" under.ne_kind)
      exact .child named (under.of_agreeExcept agree) changed_at changed_items given_at items
        agree.symm ih
  | predicate kind given_at changed_at agree _ ih =>
      have named := kind.of_lookup_eq (agree "kind" (by simp))
      exact .predicate named changed_at given_at agree.symm ih

theorem hasFields_of_child {entries changed : Entries} {name : String}
    {given other left right : Value} {before after : List Value} {document : NodeDocument}
    (kind : NodeKind.group.IsNamedBy entries) (under : HasChildrenUnder name entries)
    (given_at : entries.lookup name = some given)
    (items : given.items? = some (before ++ left :: after))
    (changed_at : changed.lookup name = some other)
    (changed_items : other.items? = some (before ++ right :: after))
    (agree : AgreeExcept [name] entries changed)
    (fields : NodeDocument.HasFields entries document) :
    ∃ logic, document = .group logic (before ++ left :: after) ∧
      NodeDocument.HasFields changed (.group logic (before ++ right :: after)) := by
  have listed {value : Value} {items : List Value} (sequence : value.items? = some items) :
      ∀ children, Value.Lists (some value) children ↔ children = items := by
    intro children
    cases value <;> cases sequence <;> rfl
  cases fields with
  | @group logic children named logic_named children_listed =>
      rw [under.or_eq given_at, listed items] at children_listed
      subst children_listed
      refine ⟨logic, rfl, .group (kind.of_lookup_eq (agree "kind" under.ne_kind)) ?_ ?_⟩
      · rcases under with rfl | ⟨rfl, -⟩ <;> rwa [agree "logic" (by simp)]
      · rw [(under.of_agreeExcept agree).or_eq changed_at, listed changed_items]
  | scalar named => cases kind.unique named
  | array named => cases kind.unique named

theorem hasFields_of_predicate {entries changed left right : Entries} {document : NodeDocument}
    (kind : NodeKind.array.IsNamedBy entries)
    (given_at : entries.lookup "predicate" = some (.mapping left))
    (changed_at : changed.lookup "predicate" = some (.mapping right))
    (agree : AgreeExcept ["predicate"] entries changed)
    (fields : NodeDocument.HasFields entries document) :
    ∃ path quantifier count index, document = .array path quantifier count index (.mapping left) ∧
      NodeDocument.HasFields changed (.array path quantifier count index (.mapping right)) := by
  cases fields with
  | group named => cases kind.unique named
  | scalar named => cases kind.unique named
  | @array path quantifier count index _ named path_given quantifier_named count_given index_given
      predicate_given =>
      cases predicate_given.symm.trans given_at
      refine ⟨path, quantifier, count, index, rfl,
        .array (kind.of_lookup_eq (agree "kind" (by simp))) ?_ ?_ ?_ ?_ changed_at⟩
      · rwa [agree "path" (by simp)]
      · rwa [agree "quantifier" (by simp)]
      · rwa [agree "count" (by simp)]
      · rwa [agree "index" (by simp)]

open RuleNode in
/-- A change that leaves the fields of the changed node matching leaves what is loaded alike. -/
theorem loadsInto {view : Condition → Condition}
    (respects : ∀ entries changed, change entries changed →
      ∀ document, NodeDocument.HasFields entries document →
        ∃ other, NodeDocument.HasFields changed other ∧ Matches view document other)
    (changes : ChangesNode change data changed) : LoadsInto view data changed := by
  induction changes with
  | here differs => exact loadsInto_of_matches (respects _ _ differs)
  | @child entries changed name given other left right before after kind under given_at items
      changed_at changed_items agree below ih =>
      refine loadsInto_of_matches fun document fields => ?_
      obtain ⟨logic, rfl, changed_fields⟩ := hasFields_of_child kind under given_at items changed_at
        changed_items agree fields
      have alike (documents : List Value) :
          List.Forall₂ (LoadsInto view) documents documents :=
        List.forall₂_same.mpr fun document _ => .refl document
      exact ⟨_, changed_fields, .group (List.rel_append (alike before) (.cons ih (alike after)))⟩
  | predicate kind given_at changed_at agree below ih =>
      obtain ⟨⟨left, rfl⟩, right, rfl⟩ := below.isMapping
      refine loadsInto_of_matches fun document fields => ?_
      obtain ⟨path, quantifier, count, index, rfl, changed_fields⟩ :=
        hasFields_of_predicate kind given_at changed_at agree fields
      exact ⟨_, changed_fields, .array (fun _ => rfl) (fun _ => rfl) ih⟩

end ChangesNode

end Rulebook
