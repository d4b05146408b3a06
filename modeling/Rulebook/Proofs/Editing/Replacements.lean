import Rulebook.Proofs.Editing.Inverses
import Rulebook.Proofs.Rule.Places

/-!
# Replacements in place

A replacement is meant to change a rule at one place only.  It does so at the root and for every
child of a group, by taking the child out and putting the other rule in.  The predicate of an array
rule cannot be taken out, so a replacement of it is lost.
-/

namespace Rulebook.RuleNode

/-! ## Changes at one place -/

/-- A node without the nodes below it; of an array rule the predicate is left out whole. -/
def stripped : RuleNode → RuleNode
  | group id logic _ => group id logic []
  | scalar id condition => scalar id condition
  | array id path quantifier .. => array id path quantifier "" .and []

/-- What a node is by itself, with the identities directly below it in their order. -/
def face (node : RuleNode) : RuleNode × List String := (node.stripped, node.subnodes.map id)

/-- Whether one rule is another one with a subtree exchanged: the place has the new subtree, and
every node at another place that is not below it is the same. -/
structure IsReplacedAt (root result : RuleNode) (place : List Nat) (replacement : RuleNode) :
    Prop where
  inside : ∀ deeper, result.at? (place ++ deeper) = replacement.at? deeper
  outside : ∀ other, ¬ place <+: other →
    (result.at? other).map face = (root.at? other).map face

theorem isReplacedAt_nil (root replacement : RuleNode) :
    IsReplacedAt root replacement [] replacement where
  inside _ := rfl
  outside _ apart := (apart List.nil_prefix).elim

/-- A rule has its own subtrees at their places. -/
theorem isReplacedAt_self {root node : RuleNode} {place : List Nat}
    (here : root.at? place = some node) : IsReplacedAt root root place node where
  inside _ := by rw [at?_append, here, Option.bind_some]
  outside _ _ := rfl

theorem IsReplacedAt.at? {root result replacement : RuleNode} {place : List Nat}
    (replaced : IsReplacedAt root result place replacement) :
    result.at? place = some replacement := by
  have here := replaced.inside []
  rwa [List.append_nil, at?_nil] at here

/-- A change in one of the nodes directly below is a change in the node. -/
theorem IsReplacedAt.cons {root result child changed replacement : RuleNode} {position : Nat}
    {place : List Nat} (directly : root.subnodes[position]? = some child)
    (own : result.stripped = root.stripped)
    (exchanged : result.subnodes = root.subnodes.set position changed)
    (same : changed.id = child.id) (replaced : IsReplacedAt child changed place replacement) :
    IsReplacedAt root result (position :: place) replacement := by
  obtain ⟨within, found⟩ := List.getElem?_eq_some_iff.mp directly
  have here : result.subnodes[position]? = some changed := by
    rw [exchanged, List.getElem?_set_self within]
  have elsewhere (other : Nat) (apart : position ≠ other) :
      result.subnodes[other]? = root.subnodes[other]? := by
    rw [exchanged, List.getElem?_set_ne apart]
  refine ⟨fun deeper => ?_, fun other apart => ?_⟩
  · rw [List.cons_append, at?_cons, here]
    exact replaced.inside deeper
  · cases other with
    | nil =>
        have listed : result.subnodes.map id = root.subnodes.map id := by
          have kept : (root.subnodes.map id).set position child.id = root.subnodes.map id := by
            rw [← found, ← List.map_set, List.set_getElem_self]
          rw [exchanged, List.map_set, same, kept]
        simp [face, own, listed]
    | cons next other =>
        rw [List.cons_prefix_cons] at apart
        by_cases along : position = next
        · subst along
          rw [at?_cons, at?_cons, here, directly]
          exact replaced.outside other fun further => apart ⟨rfl, further⟩
        · rw [at?_cons, at?_cons, elsewhere next along]

/-! ## Other children for a group -/

theorem stripped_setChildren (container : String) (fresh : List RuleNode) (node : RuleNode) :
    (node.setChildren container fresh).stripped = node.stripped := by
  cases node with
  | group id logic children => rw [setChildren_group]; rfl
  | scalar id condition => rfl
  | array id path quantifier predicateId predicateLogic predicate =>
      rw [setChildren_array]; rfl

/-- The change of a group goes on in the one node directly below that has it. -/
theorem subnodes_setChildren {node child : RuleNode} {container : String} {position : Nat}
    (distinct : node.ids.Nodup) (directly : node.subnodes[position]? = some child)
    (inside : container ∈ child.groupIds) (fresh : List RuleNode) :
    (node.setChildren container fresh).subnodes =
      node.subnodes.set position (child.setChildren container fresh) := by
  cases node with
  | group id logic children =>
      rw [ids_group, List.nodup_cons] at distinct
      have other := ne_of_mem_groupIds distinct.1 (List.mem_of_getElem? directly) inside
      rw [subnodes] at directly
      obtain ⟨within, found⟩ := List.getElem?_eq_some_iff.mp directly
      have parted : children = children.take position ++ child :: children.drop (position + 1) := by
        rw [← found, List.getElem_cons_drop, List.take_append_drop]
      have apart := distinct.2
      rw [parted] at apart
      rw [setChildren_group, childrenAfter, if_neg other, subnodes, subnodes]
      calc
        children.map (setChildren container fresh)
        _ = children.take position ++
              child.setChildren container fresh :: children.drop (position + 1) := by
            rw [← map_setChildren apart inside, ← parted]
        _ = children.set position (child.setChildren container fresh) := by
            rw [List.set_eq_take_append_cons_drop, if_pos within]
  | scalar id condition => cases directly
  | array id path quantifier predicateId predicateLogic predicate =>
      obtain ⟨rfl, rfl⟩ : position = 0 ∧ group predicateId predicateLogic predicate = child := by
        cases position with
        | zero => exact ⟨rfl, Option.some.inj directly⟩
        | succ position => cases directly
      rw [setChildren_array, setChildren_group]
      rfl

/-- A group with one child exchanged for a node of the same identity is the rule with that child
replaced. -/
theorem isReplacedAt_setChildren {root node replacement : RuleNode} {container : String}
    {logic : Logic} {before after : List RuleNode} {place : List Nat} (distinct : root.ids.Nodup)
    (here : root.at? place = some (group container logic (before ++ node :: after)))
    (same : replacement.id = node.id) :
    IsReplacedAt root (root.setChildren container (before ++ replacement :: after))
      (place ++ [before.length]) replacement := by
  induction place generalizing root with
  | nil =>
      cases here
      rw [setChildren_group, childrenAfter, if_pos rfl]
      have directly :
          (group container logic (before ++ node :: after)).subnodes[before.length]? =
            some node := by
        simp [subnodes]
      refine .cons directly rfl ?_ same (isReplacedAt_nil node replacement)
      simp [subnodes]
  | cons position place ih =>
      obtain ⟨child, directly, below⟩ := at?_cons_eq_some.mp here
      have inside := mem_groupIds_of_mem_nodes (mem_nodes_of_at? below)
      have own := nodup_ids_of_mem_subnodes distinct (List.mem_of_getElem? directly)
      exact .cons directly (stripped_setChildren ..)
        (subnodes_setChildren distinct directly inside _) (id_setChildren ..) (ih own below)

/-! ## Where replacements take place -/

/-- Whether a node is the predicate of an array rule in a rule. -/
def HasPredicate (root : RuleNode) (target : String) : Prop :=
  ∃ id path quantifier logic predicate,
    array id path quantifier target logic predicate ∈ root.nodes

/-- Every node but the root is a child of a group or the predicate of an array rule. -/
theorem isListed_or_hasPredicate {root : RuleNode} {target : String} (known : target ∈ root.ids)
    (below : root.id ≠ target) : root.IsListed target ∨ root.HasPredicate target := by
  have among : target ∈ (root.ids : Multiset String) := known
  rw [coe_ids_eq_cons, Multiset.mem_cons, listedIds, Multiset.mem_bind] at among
  obtain ⟨card, shown, member⟩ := among.resolve_left below.symm
  obtain ⟨node, located, rfl⟩ := Multiset.mem_map.mp shown
  cases node with
  | group id logic children =>
      exact .inl ⟨id, _, listsChildren_of_mem_nodes located, member⟩
  | scalar id condition => cases member
  | array id path quantifier predicateId predicateLogic predicate =>
      cases List.mem_singleton.mp member
      exact .inr ⟨id, path, quantifier, predicateLogic, predicate, located⟩

/-- A predicate is neither the root nor a child of a group. -/
theorem HasPredicate.not_listed {root : RuleNode} {target : String} (distinct : root.ids.Nodup)
    (predicate : root.HasPredicate target) : root.id ≠ target ∧ ¬ root.IsListed target := by
  obtain ⟨id, path, quantifier, logic, children, located⟩ := predicate
  have shown : (array id path quantifier target logic [], [target]) ∈ root.cards :=
    Multiset.mem_map.mpr ⟨_, located, rfl⟩
  obtain ⟨others, split⟩ : ∃ others, root.cards =
      (array id path quantifier target logic [], [] ++ target :: []) ::ₘ others :=
    Multiset.exists_cons_of_mem shown
  obtain ⟨-, -, elsewhere⟩ := listed_once distinct split
  constructor
  · rintro atRoot
    have whole : (root.ids : Multiset String).Nodup := distinct
    rw [coe_ids_eq_cons, Multiset.nodup_cons, listedIds, split, Multiset.cons_bind, atRoot] at whole
    exact whole.1 (Multiset.mem_add.mpr (.inl (Multiset.mem_singleton_self target)))
  · rintro ⟨container, childIds, lists, member⟩
    obtain ⟨inner, among⟩ := listsChildren_iff_mem_cards.mp lists
    rw [split, Multiset.mem_cons] at among
    rcases among with same | among
    · cases same
    · exact elsewhere _ among member

theorem apply_replace_of_not_isListed {root : RuleNode} {target : String}
    (replacement : RuleNode) (below : root.id ≠ target) (unlisted : ¬ root.IsListed target) :
    (Edit.replace target replacement).apply root = root := by
  rw [Edit.apply, replace?, if_neg below, detach_eq_none_iff.mpr unlisted]
  rfl

@[simp]
theorem id_withId (node : RuleNode) (id : String) : (node.withId id).id = id := by
  cases node <;> rfl

/-- A child of a group is replaced in its place. -/
theorem isReplacedAt_of_isListed {root node : RuleNode} {target : String} {place : List Nat}
    (distinct : root.ids.Nodup) (below : root.id ≠ target) (listed : root.IsListed target)
    (here : root.at? place = some node) (same : node.id = target) (replacement : RuleNode) :
    IsReplacedAt root ((Edit.replace target replacement).apply root) place
      (replacement.withId target) := by
  cases found : root.detach target with
  | none => exact (detach_eq_none_iff.mp found listed).elim
  | some taken =>
      obtain ⟨rest, removal⟩ := taken
      have own := (splits_of_detach found).node
      obtain ⟨logic, before, after, -, located, exchanged⟩ :=
        exists_insertInto_of_detach distinct found
      obtain ⟨upper, group⟩ := exists_at?_of_mem_nodes located
      have there : root.at? (upper ++ [before.length]) = some removal.node := by
        rw [at?_append, group]
        simp [at?_cons, subnodes]
      cases place_unique distinct here there (same.trans own.symm)
      have done : (Edit.replace target replacement).apply root = root.setChildren
          removal.container (before ++ replacement.withId target :: after) := by
        rw [Edit.apply, replace?, if_neg below, found, Option.bind_some]
        dsimp only
        rw [exchanged, Option.getD_some]
      rw [done]
      exact isReplacedAt_setChildren distinct group (by rw [id_withId, own])

/-- Replacements in a rule with distinct identities.  A node that the rule does not have is not
replaced.  A node that it has is at one place, and there it is replaced unless it is the predicate
of an array rule; the replacement of a predicate changes nothing. -/
theorem isReplacedAt_apply_replace_iff (root : RuleNode) (distinct : root.ids.Nodup)
    (target : String) (replacement : RuleNode) :
    (root.find? target = none → (Edit.replace target replacement).apply root = root) ∧
      (root.HasPredicate target → (Edit.replace target replacement).apply root = root) ∧
        ∀ node, root.find? target = some node →
          ∃ place, root.at? place = some node ∧
            (∀ other found, root.at? other = some found → found.id = target → other = place) ∧
              (IsReplacedAt root ((Edit.replace target replacement).apply root) place
                  (replacement.withId target) ↔
                ¬ root.HasPredicate target ∨ node = replacement.withId target) := by
  have lost (predicate : root.HasPredicate target) :
      (Edit.replace target replacement).apply root = root := by
    obtain ⟨below, unlisted⟩ := predicate.not_listed distinct
    exact apply_replace_of_not_isListed replacement below unlisted
  refine ⟨fun unknown => ?_, lost, fun node known => ?_⟩
  · have absent : target ∉ root.ids := by
      rw [← isSome_find?_iff, unknown]
      exact Bool.false_ne_true
    refine apply_replace_of_not_isListed replacement ?_ ?_
    · rintro rfl
      exact absent (by rw [ids_eq_cons]; exact List.mem_cons_self)
    · intro listed
      obtain ⟨id, logic, children, located, child, member, rfl⟩ := isListed_iff.mp listed
      exact absent (List.mem_map_of_mem (mem_nodes_trans (mem_nodes_of_mem_children member) located))
  · obtain ⟨located, same⟩ := (find?_eq_some_iff distinct).mp known
    obtain ⟨place, here⟩ := exists_at?_of_mem_nodes located
    refine ⟨place, here, fun other found there also => ?_, ?_⟩
    · exact place_unique distinct there here (also.trans same.symm)
    by_cases predicate : root.HasPredicate target
    · rw [lost predicate, or_iff_right (not_not_intro predicate)]
      constructor
      · intro replaced
        exact Option.some.inj (here.symm.trans replaced.at?)
      · rintro rfl
        exact isReplacedAt_self here
    · refine iff_of_true ?_ (.inl predicate)
      by_cases atRoot : root.id = target
      · cases place_unique distinct here (at?_nil root) (same.trans atRoot.symm)
        rw [Edit.apply, replace?, if_pos atRoot]
        exact isReplacedAt_nil ..
      · have listed := (isListed_or_hasPredicate
          (same ▸ List.mem_map_of_mem located) atRoot).resolve_right predicate
        exact isReplacedAt_of_isListed distinct atRoot listed here same replacement

/-- A child of a predicate is replaced in its place; the predicate itself stays as it is. -/
theorem isReplacedAt_boardRule :
    IsReplacedAt boardRule ((Edit.replace "r6" (group "r8" .or [])).apply boardRule) [1, 0, 1]
        (group "r6" .or []) ∧
      (Edit.replace "r4" (group "r8" .and [])).apply boardRule = boardRule := by
  have distinct : boardRule.ids.Nodup := by decide
  constructor
  · have listed : boardRule.IsListed "r6" := ⟨"r4", by decide⟩
    obtain ⟨-, -, known⟩ :=
      isReplacedAt_apply_replace_iff boardRule distinct "r6" (group "r8" .or [])
    obtain ⟨place, -, only, replaced⟩ := known (group "r6" .and []) rfl
    have here : [1, 0, 1] = place := only _ (group "r6" .and []) rfl rfl
    rw [here]
    exact replaced.mpr (.inl fun predicate => (predicate.not_listed distinct).2 listed)
  · have predicate : boardRule.HasPredicate "r4" :=
      ⟨"r3", .text "teams[]", .any, .or, _, List.mem_of_getElem? (i := 2) rfl⟩
    exact (isReplacedAt_apply_replace_iff boardRule distinct "r4" _).2.1 predicate

/-- Some role has to satisfy a group without children. -/
def roleRule : RuleNode := .array "r1" (.text "roles") .any "r2" .and []

/-- A predicate is not replaced, not even by a group without anything below it. -/
theorem not_forall_isReplacedAt :
    ¬ ∀ (root replacement : RuleNode) (target : String), root.ids.Nodup →
      replacement.ids.Nodup → (∀ id ∈ replacement.idsBelow, id ∉ root.ids) →
        replacement.isGroup = true → ∀ node, root.find? target = some node →
          ∃ place, root.at? place = some node ∧
            IsReplacedAt root ((Edit.replace target replacement).apply root) place
              (replacement.withId target) := by
  intro law
  obtain ⟨place, here, replaced⟩ := law roleRule (group "r3" .or []) "r2" (by decide) (by decide)
    (by decide) rfl (group "r2" .and []) rfl
  have unchanged : (Edit.replace "r2" (group "r3" .or [])).apply roleRule = roleRule := rfl
  have there := replaced.at?
  rw [unchanged, here] at there
  cases there

end Rulebook.RuleNode
