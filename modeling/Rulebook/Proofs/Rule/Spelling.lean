import Rulebook.Proofs.Rule.Changes
import Rulebook.Proofs.Text.Case

/-!
# Spellings of a document

A rule document can be written in several ways: names in any letter case, `children` and `valueType`
under their older names, no children as an empty list, as null or not at all, and with keys that no
node reads.  All of them load to the same rule with the same identities.
-/

namespace Rulebook

open Text (SameLetters)

/-- The keys of names that are read in any letter case. -/
def nameKeys : List String := ["kind", "logic", "quantifier", "op", "valueType", "valuetype"]

/-- The two names under which a group may have its children. -/
def childrenKeys : List String := ["children", "rules"]

/-- The two names under which a condition may have its type. -/
def typeKeys : List String := ["valueType", "valuetype"]

/-- The keys that are read as they are. -/
def plainKeys : List String := ["path", "value", "value2", "count", "index", "predicate"]

/-- The keys that nodes of some kind read. -/
def nodeKeys : List String :=
  nameKeys ++ childrenKeys ++ plainKeys

/-- Whether the entries of a node are spelled in another way. -/
inductive Respelling (entries changed : Entries) : Prop where
  /-- A name is written in another letter case. -/
  | letterCase {key word other : String} (isName : key ∈ nameKeys)
      (given_at : entries.lookup key = some (.text word))
      (changed_at : changed.lookup key = some (.text other)) (same : SameLetters word other)
      (agree : AgreeExcept [key] entries changed)
  /-- A field that has two names is moved from the one to the other, at which there is nothing. -/
  | rename {first second : String}
      (names : [first, second] ∈ [childrenKeys, childrenKeys.reverse, typeKeys, typeKeys.reverse])
      (free : entries.lookup second = none) (left : changed.lookup first = none)
      (moved : changed.lookup second = entries.lookup first)
      (agree : AgreeExcept [first, second] entries changed)
  /-- An empty list of children is replaced by null. -/
  | nullChildren {key : String} {value : Value} (isChildren : key ∈ childrenKeys)
      (given_at : entries.lookup key = some value) (empty : value.items? = some [])
      (changed_at : changed.lookup key = some .null) (agree : AgreeExcept [key] entries changed)
  /-- An empty list of children is left out.  Children under the older name are read after that, so
  there must be none. -/
  | noChildren {key : String} {value : Value} (isChildren : key ∈ childrenKeys)
      (given_at : entries.lookup key = some value) (empty : value.items? = some [])
      (changed_at : changed.lookup key = none) (agree : AgreeExcept [key] entries changed)
      (alone : key = "children" → Value.Lists (entries.lookup "rules") [])
  /-- Keys that no node reads are added. -/
  | furtherKeys (agree : ∀ key ∈ nodeKeys, changed.lookup key = entries.lookup key)

/-- Whether two fields are the same, up to the letter case of texts. -/
inductive Recased : Option Value → Option Value → Prop where
  | same (given : Option Value) : Recased given given
  | text {word other : String} (same : SameLetters word other) :
      Recased (some (.text word)) (some (.text other))

namespace Recased

variable {given changed : Option Value}

theorem of_eq (same : changed = given) : Recased given changed := same ▸ .same given

theorem symm (recased : Recased given changed) : Recased changed given := by
  cases recased with
  | same => exact .same given
  | text same => exact .text same.symm

theorem or {second changedSecond : Option Value} (recased : Recased given changed)
    (second_recased : Recased second changedSecond) :
    Recased (given.or second) (changed.or changedSecond) := by
  cases recased with
  | same =>
      cases given with
      | none => exact second_recased
      | some value => exact .same (some value)
  | text same => exact .text same

theorem names {change : String → String}
    (respects : ∀ {word other}, SameLetters word other → change word = change other)
    (recased : Recased given changed) {name : String}
    (named : Given given (Value.Names change name)) :
    Given changed (Value.Names change name) := by
  cases recased with
  | same => exact named
  | @text word other same =>
      obtain ⟨_, ⟨⟩, reads⟩ := named
      refine ⟨.text other, rfl, ?_⟩
      rw [Value.Names, NodeDocument.mapText, respects same] at *
      exact reads

theorem namesOperator (recased : Recased given changed) {operator : Operator}
    (named : Given given (Value.NamesOperator operator)) :
    Given changed (Value.NamesOperator operator) := by
  cases recased with
  | same => exact named
  | @text word other same =>
      obtain ⟨_, ⟨⟩, reads⟩ := named
      exact ⟨.text other, rfl, same.lower_eq.symm.trans reads⟩

end Recased

theorem NodeKind.IsNamedBy.of_recased {kind : NodeKind} {entries changed : Entries}
    (recased : Recased (entries.lookup "kind") (changed.lookup "kind"))
    (named : kind.IsNamedBy entries) : kind.IsNamedBy changed := by
  obtain ⟨word, found, reads⟩ := named
  rw [found] at recased
  generalize given : changed.lookup "kind" = other at recased
  cases recased with
  | same => exact ⟨word, given, reads⟩
  | text same => exact ⟨_, given, same.lower_eq.symm.trans reads⟩

theorem Value.Lists.iff_eq {given : Option Value} {children others : List Value}
    (listed : Value.Lists given children) : Value.Lists given others ↔ others = children := by
  rcases given with _ | value
  · cases listed
    rfl
  · cases value <;> cases listed <;> rfl

/-- Whether entries give the same readings of all that nodes look at. -/
structure SameReadings (entries changed : Entries) : Prop where
  kind : Recased (entries.lookup "kind") (changed.lookup "kind")
  logic : Recased (entries.lookup "logic") (changed.lookup "logic")
  quantifier : Recased (entries.lookup "quantifier") (changed.lookup "quantifier")
  operator : Recased (entries.lookup "op") (changed.lookup "op")
  type : Recased ((entries.lookup "valueType").or (entries.lookup "valuetype"))
    ((changed.lookup "valueType").or (changed.lookup "valuetype"))
  children : ∀ children,
    Value.Lists ((changed.lookup "children").or (changed.lookup "rules")) children ↔
      Value.Lists ((entries.lookup "children").or (entries.lookup "rules")) children
  others : ∀ key ∈ plainKeys, changed.lookup key = entries.lookup key

namespace SameReadings

variable {entries changed : Entries}

theorem symm (same : SameReadings entries changed) : SameReadings changed entries where
  kind := same.kind.symm
  logic := same.logic.symm
  quantifier := same.quantifier.symm
  operator := same.operator.symm
  type := same.type.symm
  children := fun children => (same.children children).symm
  others := fun key among => (same.others key among).symm

theorem hasFields (same : SameReadings entries changed) {document : NodeDocument}
    (fields : NodeDocument.HasFields entries document) :
    NodeDocument.HasFields changed document := by
  cases fields with
  | group kind logic_named children_listed =>
      exact .group (kind.of_recased same.kind) (same.logic.names SameLetters.upper_eq logic_named)
        ((same.children _).mpr children_listed)
  | scalar kind path_given type_named operator_named =>
      rw [← same.others "path" (by simp [plainKeys])] at path_given
      rw [← same.others "value" (by simp [plainKeys]), ← same.others "value2" (by simp [plainKeys])]
      exact .scalar (kind.of_recased same.kind) path_given
        (same.type.names SameLetters.lower_eq type_named)
        (same.operator.namesOperator operator_named)
  | array kind path_given quantifier_named count_given index_given predicate_given =>
      rw [← same.others "path" (by simp [plainKeys])] at path_given
      rw [← same.others "count" (by simp [plainKeys])] at count_given
      rw [← same.others "index" (by simp [plainKeys])] at index_given
      rw [← same.others "predicate" (by simp [plainKeys])] at predicate_given
      exact .array (kind.of_recased same.kind) path_given
        (same.quantifier.names SameLetters.upper_eq quantifier_named) count_given index_given
        predicate_given

theorem of_letterCase {key word other : String} (isName : key ∈ nameKeys)
    (given_at : entries.lookup key = some (.text word))
    (changed_at : changed.lookup key = some (.text other)) (same : SameLetters word other)
    (agree : AgreeExcept [key] entries changed) : SameReadings entries changed := by
  have disjoint : ∀ name ∈ childrenKeys ++ plainKeys, name ∉ nameKeys := by decide
  have recased (name : String) : Recased (entries.lookup name) (changed.lookup name) := by
    by_cases here : name = key
    · rw [here, given_at, changed_at]
      exact .text same
    · exact .of_eq (agree name (by simpa using here))
  have elsewhere (name : String) (among : name ∈ childrenKeys ++ plainKeys) :
      changed.lookup name = entries.lookup name := by
    refine agree name (List.mem_singleton.not.mpr ?_)
    rintro rfl
    exact disjoint name among isName
  refine ⟨recased _, recased _, recased _, recased _, (recased _).or (recased _), ?_, ?_⟩
  · intro children
    rw [elsewhere "children" (by decide), elsewhere "rules" (by decide)]
  · exact fun name among => elsewhere name (List.mem_append_right _ among)

/-- Entries that nodes read alike apart from their children. -/
theorem of_children
    (agree : ∀ key ∈ nameKeys ++ plainKeys, changed.lookup key = entries.lookup key)
    (children : ∀ children,
      Value.Lists ((changed.lookup "children").or (changed.lookup "rules")) children ↔
        Value.Lists ((entries.lookup "children").or (entries.lookup "rules")) children) :
    SameReadings entries changed := by
  have name (key : String) (among : key ∈ nameKeys) :
      Recased (entries.lookup key) (changed.lookup key) :=
    .of_eq (agree key (List.mem_append_left _ among))
  refine ⟨name _ ?_, name _ ?_, name _ ?_, name _ ?_, (name _ ?_).or (name _ ?_), children, ?_⟩
  case refine_7 => exact fun key among => agree key (List.mem_append_right _ among)
  all_goals decide

theorem of_agreeExcept_children (agree : AgreeExcept childrenKeys entries changed)
    (children : ∀ children,
      Value.Lists ((changed.lookup "children").or (changed.lookup "rules")) children ↔
        Value.Lists ((entries.lookup "children").or (entries.lookup "rules")) children) :
    SameReadings entries changed := by
  have disjoint : ∀ name ∈ nameKeys ++ plainKeys, name ∉ childrenKeys := by decide
  exact of_children (fun key among => agree key (disjoint key among)) children

/-- Entries that differ only in where the type is. -/
theorem of_type (agree : AgreeExcept typeKeys entries changed)
    (type : (changed.lookup "valueType").or (changed.lookup "valuetype") =
      (entries.lookup "valueType").or (entries.lookup "valuetype")) :
    SameReadings entries changed := by
  have disjoint : ∀ name ∈ childrenKeys ++ plainKeys, name ∉ typeKeys := by decide
  have elsewhere (name : String) (among : name ∈ childrenKeys ++ plainKeys) :=
    agree name (disjoint name among)
  refine ⟨.of_eq (agree _ ?_), .of_eq (agree _ ?_), .of_eq (agree _ ?_), .of_eq (agree _ ?_),
    .of_eq type, ?_, ?_⟩
  case refine_5 =>
    intro children
    rw [elsewhere "children" (by decide), elsewhere "rules" (by decide)]
  case refine_6 => exact fun name among => elsewhere name (List.mem_append_right _ among)
  all_goals decide

/-- A field that has moved is found under its other name. -/
theorem or_eq_of_moved {first second : String} (free : entries.lookup second = none)
    (left : changed.lookup first = none)
    (moved : changed.lookup second = entries.lookup first) :
    (changed.lookup first).or (changed.lookup second) =
        (entries.lookup first).or (entries.lookup second) ∧
      (changed.lookup second).or (changed.lookup first) =
        (entries.lookup second).or (entries.lookup first) := by
  rw [free, left, moved]
  simp

theorem of_rename {first second : String}
    (names : [first, second] ∈ [childrenKeys, childrenKeys.reverse, typeKeys, typeKeys.reverse])
    (free : entries.lookup second = none) (left : changed.lookup first = none)
    (moved : changed.lookup second = entries.lookup first)
    (agree : AgreeExcept [first, second] entries changed) : SameReadings entries changed := by
  obtain ⟨along, back⟩ := or_eq_of_moved free left moved
  have turned : AgreeExcept [second, first] entries changed :=
    fun key other => agree key fun among => other (by simpa [or_comm] using among)
  simp only [childrenKeys, typeKeys, List.reverse_cons, List.reverse_nil, List.nil_append,
    List.cons_append, List.mem_cons, List.cons.injEq, and_true, List.not_mem_nil, or_false] at names
  rcases names with ⟨rfl, rfl⟩ | ⟨rfl, rfl⟩ | ⟨rfl, rfl⟩ | ⟨rfl, rfl⟩
  · exact of_agreeExcept_children agree fun children => by rw [along]
  · exact of_agreeExcept_children turned fun children => by rw [back]
  · exact of_type agree along
  · exact of_type turned back

/-- An empty list of children makes no difference, unless it hides others. -/
theorem of_emptied {key : String} {value : Value} (isChildren : key ∈ childrenKeys)
    (given_at : entries.lookup key = some value) (empty : value.items? = some [])
    (changed_empty : Value.Lists (changed.lookup key) [])
    (agree : AgreeExcept [key] entries changed)
    (alone : key = "children" → changed.lookup key = none →
      Value.Lists (entries.lookup "rules") []) : SameReadings entries changed := by
  have listed : Value.Lists (some value) [] := by
    cases value <;> cases empty <;> rfl
  refine of_agreeExcept_children (fun name other => agree name fun among => ?_) fun children => ?_
  · exact other (List.mem_singleton.mp among ▸ isChildren)
  rcases List.mem_pair.mp isChildren with rfl | rfl
  · have changed_listed :
        Value.Lists ((changed.lookup "children").or (changed.lookup "rules")) [] := by
      cases found : changed.lookup "children" with
      | none =>
          rw [Option.none_or, agree "rules" (by decide)]
          exact alone rfl found
      | some other => rwa [Option.some_or, ← found]
    rw [changed_listed.iff_eq, given_at, Option.some_or, listed.iff_eq]
  · rw [agree "children" (by decide), given_at]
    cases entries.lookup "children" with
    | none => rw [Option.none_or, Option.none_or, changed_empty.iff_eq, listed.iff_eq]
    | some first => rw [Option.some_or, Option.some_or]

theorem of_furtherKeys (agree : ∀ key ∈ nodeKeys, changed.lookup key = entries.lookup key) :
    SameReadings entries changed := by
  refine of_children (fun key among => agree key ?_) fun children => ?_
  · have read : ∀ name ∈ nameKeys ++ plainKeys, name ∈ nodeKeys := by decide
    exact read key among
  · rw [agree "children" (by decide), agree "rules" (by decide)]

theorem of_respelling (respelled : Respelling entries changed) : SameReadings entries changed := by
  cases respelled with
  | letterCase isName given_at changed_at same agree =>
      exact of_letterCase isName given_at changed_at same agree
  | rename names free left moved agree => exact of_rename names free left moved agree
  | nullChildren isChildren given_at empty changed_at agree =>
      refine of_emptied isChildren given_at empty (by rw [changed_at]; rfl) agree fun _ gone => ?_
      rw [changed_at] at gone
      cases gone
  | noChildren isChildren given_at empty changed_at agree alone =>
      exact of_emptied isChildren given_at empty (by rw [changed_at]; rfl) agree
        fun first _ => alone first
  | furtherKeys agree => exact of_furtherKeys agree

end SameReadings

namespace RuleNode

/-- The node that is spelled in another way has the same fields, so that all that is loaded stays
the same. -/
theorem loadsInto_of_sameReadings {change : Entries → Entries → Prop}
    (readings : ∀ entries changed, change entries changed → SameReadings entries changed)
    {data changed : Value} (changes : ChangesNode change data changed) :
    LoadsInto (fun condition => condition) data changed :=
  changes.loadsInto fun _ _ differs document fields =>
    ⟨document, (readings _ _ differs).hasFields fields, .refl document⟩

/-- A document whose nodes are spelled in another way is accepted when the document is, with the
same rule, the same identities and the same session at the end. -/
theorem run_ofPortable_iff_of_respelling {data changed : Value}
    (respelled : Relation.ReflTransGen (ChangesNode Respelling) data changed) (maxDepth : Int)
    (session last : Session) (node : RuleNode) :
    (ofPortable maxDepth data).run session = (.ok node, last) ↔
      (ofPortable maxDepth changed).run session = (.ok node, last) := by
  induction respelled with
  | refl => rfl
  | tail _ step ih =>
      have along := loadsInto_of_sameReadings (fun _ _ => SameReadings.of_respelling) step
      have back := loadsInto_of_sameReadings
        (fun _ _ differs => (SameReadings.of_respelling differs).symm) step.symm
      exact ih.trans ⟨along.load_eq, back.load_eq⟩

/-- A condition on the language, with the name of its operator. -/
def languageDocument (operator : String) : Entries :=
  [("kind", .text "scalar"), ("path", .text "language"), ("valueType", .text "string"),
    ("op", .text operator), ("value", .text "fr")]

/-- A group without children, with further entries. -/
def emptyDocument (further : Entries) : Entries :=
  ("kind", .text "group") :: ("logic", .text "OR") :: further

/-- A policy of both, with its children under a key. -/
def policyDocument (key operator : String) (further : Entries) : Entries :=
  [("kind", .text "group"), ("logic", .text "AND"),
    (key, .list [.mapping (languageDocument operator), .mapping (emptyDocument further)])]

theorem run_ofPortable_policyDocument :
    Relation.ReflTransGen (ChangesNode Respelling)
        (.mapping (policyDocument "rules" "startsWith" [("children", .list [])]))
        (.mapping (policyDocument "children" "STARTSWITH" [])) ∧
      ∃ node last,
        (ofPortable 32 (.mapping
          (policyDocument "rules" "startsWith" [("children", .list [])]))).run (.fresh "r") =
            (.ok node, last) ∧
        (ofPortable 32 (.mapping (policyDocument "children" "STARTSWITH" []))).run (.fresh "r") =
          (.ok node, last) := by
  have named (key operator : String) (further : Entries) :
      NodeKind.group.IsNamedBy (policyDocument key operator further) := ⟨"group", rfl, by decide⟩
  have agree (keys : List String) {key other : String} (among : key ∈ keys)
      (also_among : other ∈ keys) (children listed : Value) :
      AgreeExcept keys [("kind", .text "group"), ("logic", .text "AND"), (key, children)]
        [("kind", .text "group"), ("logic", .text "AND"), (other, listed)] :=
    (((AgreeExcept.refl keys []).before among children).symm.before also_among listed).cons _
      |>.cons _
  have renamed : ChangesNode Respelling
      (.mapping (policyDocument "rules" "startsWith" [("children", .list [])]))
      (.mapping (policyDocument "children" "startsWith" [("children", .list [])])) := by
    have names : ["rules", "children"] ∈
        [childrenKeys, childrenKeys.reverse, typeKeys, typeKeys.reverse] := by decide
    exact .here (.rename names rfl rfl rfl (agree _ (by decide) (by decide) _ _))
  have recased : ChangesNode Respelling
      (.mapping (policyDocument "children" "startsWith" [("children", .list [])]))
      (.mapping (policyDocument "children" "STARTSWITH" [("children", .list [])])) := by
    have items (operator : String) :
        (Value.list [.mapping (languageDocument operator),
          .mapping (emptyDocument [("children", .list [])])]).items? =
            some ([] ++ .mapping (languageDocument operator) ::
              [.mapping (emptyDocument [("children", .list [])])]) := rfl
    have isName : "op" ∈ nameKeys := by decide
    have others : AgreeExcept ["op"] (languageDocument "startsWith")
        (languageDocument "STARTSWITH") := by
      refine (((AgreeExcept.cons ?_ _).cons _).cons _)
      exact ((AgreeExcept.refl _ _).before (by decide) _).symm.before (by decide) _
    exact .child (named _ _ _) (.inl rfl) rfl (items _) rfl (items _)
      (agree _ (by decide) (by decide) _ _)
      (.here (.letterCase isName rfl rfl (by decide) others))
  have emptied : ChangesNode Respelling
      (.mapping (policyDocument "children" "STARTSWITH" [("children", .list [])]))
      (.mapping (policyDocument "children" "STARTSWITH" [])) := by
    have items (further : Entries) :
        (Value.list [.mapping (languageDocument "STARTSWITH"),
          .mapping (emptyDocument further)]).items? =
            some ([.mapping (languageDocument "STARTSWITH")] ++
              .mapping (emptyDocument further) :: []) := rfl
    have isChildren : "children" ∈ childrenKeys := by decide
    have others : AgreeExcept ["children"] (emptyDocument [("children", .list [])])
        (emptyDocument []) :=
      ((AgreeExcept.refl _ []).before (by decide) _).symm.cons _ |>.cons _
    exact .child (named _ _ _) (.inl rfl) rfl (items _) rfl (items _)
      (agree _ (by decide) (by decide) _ _)
      (.here (.noChildren isChildren rfl rfl rfl others fun _ => rfl))
  have respelled := ((Relation.ReflTransGen.single renamed).tail recased).tail emptied
  obtain ⟨node, last, loaded⟩ : ∃ node last,
      (ofPortable 32 (.mapping
        (policyDocument "rules" "startsWith" [("children", .list [])]))).run (.fresh "r") =
          (.ok node, last) := ⟨_, _, rfl⟩
  exact ⟨respelled, node, last, loaded,
    (run_ofPortable_iff_of_respelling respelled 32 (.fresh "r") last node).mp loaded⟩

/-- One child, under the older name. -/
def olderChildren : Entries := [("rules", .list [.mapping (emptyDocument [])])]

/-- An empty list of children that is left out gives way to children under the older name. -/
theorem not_forall_run_ofPortable_iff_of_noChildren :
    ¬ ∀ (entries changed : Entries) (value : Value), entries.lookup "children" = some value →
      value.items? = some [] → changed.lookup "children" = none →
        AgreeExcept ["children"] entries changed → ∀ maxDepth session last node,
          (ofPortable maxDepth (.mapping entries)).run session = (.ok node, last) ↔
            (ofPortable maxDepth (.mapping changed)).run session = (.ok node, last) := by
  intro same
  have agree : AgreeExcept ["children"] (emptyDocument (("children", .list []) :: olderChildren))
      (emptyDocument olderChildren) :=
    ((AgreeExcept.refl _ olderChildren).before (by decide) _).symm.cons _ |>.cons _
  have hidden : (ofPortable 32
      (.mapping (emptyDocument (("children", .list []) :: olderChildren)))).run (.fresh "r") =
        (.ok (.group "r1" .or []), { stem := "r", issued := 1 }) := rfl
  have shown : (ofPortable 32 (.mapping (emptyDocument olderChildren))).run (.fresh "r") =
      (.ok (.group "r1" .or [.group "r2" .or []]), { stem := "r", issued := 2 }) := rfl
  have also_hidden := (same _ _ _ rfl rfl rfl agree 32 (.fresh "r") _ _).mp hidden
  rw [shown] at also_hidden
  cases also_hidden

end RuleNode

end Rulebook
