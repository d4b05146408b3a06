import Rulebook.Proofs.Evaluation.Highlighting
import Rulebook.Proofs.Evaluation.Samples
import Rulebook.Proofs.Rule.Reloading

/-!
# The paths of rules from samples

A rule for a location of a sample reads that location and the sequences on the way to it, and
nothing else.  Its paths are written apart, each counted from the element that the one before leads
to; counted from the top of the document they are the beginnings of the path that was asked for.
-/

namespace Rulebook

/-! ## Places of a path -/

namespace Path

/-- The paths to the sequences at the marked steps of a path, from the outermost to the innermost.
The step into a sequence is not marked on the path to it. -/
def sequenceFronts : Path → List Path
  | [] => []
  | segment :: rest =>
      let further := (sequenceFronts rest).map (segment :: ·)
      if segment.isMarked then [segment.unmarked] :: further else further

/-- The value that a sample has at a path, sequences being represented by an element.  A marked step
leads nowhere when there is no sequence. -/
def element : Path → Value → Value
  | [], current => current
  | segment :: rest, current =>
      let value := current.denoted segment.key
      element rest (if segment.isMarked then RuleNode.representative value
        else representativeOf true false value)

/-- Whether a path ends in a sequence of which a sample does not show a plain element. -/
def endsBare (path : Path) (sample : Value) : Bool :=
  path.isMarkedAtEnd && (path.element sample).isBare

/-- The paths to the sequences on the way, and the path itself unless it ends bare. -/
def places (path : Path) (bare : Bool) : List Path :=
  path.sequenceFronts ++ if bare then [] else [path]

section Steps

variable {segment : Segment} {path : Path}

theorem places_cons_of_unmarked (unmarked : segment.isMarked = false) (bare : Bool) :
    places (segment :: path) bare = (path.places bare).map (segment :: ·) := by
  rw [places, sequenceFronts, unmarked]
  cases bare <;> simp [places]

theorem places_cons_of_marked (isMarked : segment.isMarked = true) (bare : Bool) :
    places (segment :: path) bare =
      [segment.unmarked] :: (path.places bare).map (segment :: ·) := by
  rw [places, sequenceFronts, isMarked]
  cases bare <;> simp [places]

theorem nodup_places (path : Path) (bare : Bool) : (path.places bare).Nodup := by
  induction path with
  | nil => cases bare <;> simp [places, sequenceFronts]
  | cons segment path ih =>
      have further : ((places path bare).map (segment :: ·)).Nodup :=
        ih.map List.cons_injective
      cases isMarked : segment.isMarked with
      | false =>
          rw [places_cons_of_unmarked isMarked]
          exact further
      | true =>
          rw [places_cons_of_marked isMarked, List.nodup_cons]
          refine ⟨fun again => ?_, further⟩
          obtain ⟨place, -, same⟩ := List.mem_map.mp again
          have marked : segment.unmarked.isMarked = true := by
            rw [← (List.cons_eq_cons.mp same).1, isMarked]
          cases marked

theorem isWritable_of_mem_places {path place : Path} {bare : Bool}
    (writable : ∀ segment ∈ path, segment.unmarked.IsWritable) (member : place ∈ path.places bare) :
    ∀ segment ∈ place, segment.IsWritable := by
  induction path generalizing place with
  | nil =>
      have top : place = [] := by cases bare <;> simp_all [places, sequenceFronts]
      rw [top]
      exact List.forall_mem_nil _
  | cons segment path ih =>
      obtain ⟨here, later⟩ := List.forall_mem_cons.mp writable
      have further (member : place ∈ (places path bare).map (segment :: ·)) :
          ∀ segment ∈ place, segment.IsWritable := by
        obtain ⟨place, among, rfl⟩ := List.mem_map.mp member
        exact List.forall_mem_cons.mpr ⟨⟨here.1, fun _ => here.2 rfl⟩, ih later among⟩
      cases isMarked : segment.isMarked with
      | false =>
          rw [places_cons_of_unmarked isMarked] at member
          exact further member
      | true =>
          rw [places_cons_of_marked isMarked] at member
          rcases List.mem_cons.mp member with rfl | member
          · exact List.forall_mem_singleton.mpr here
          · exact further member

/-- Different places are written differently. -/
theorem nodup_format_places {path : Path} (bare : Bool)
    (writable : ∀ segment ∈ path, segment.unmarked.IsWritable) :
    ((path.places bare).map format).Nodup := by
  refine (nodup_places path bare).map_on fun place member other among same => ?_
  rw [← parse_format (isWritable_of_mem_places writable member), same,
    parse_format (isWritable_of_mem_places writable among)]

theorem endsBare_cons_of_unmarked (unmarked : segment.isMarked = false) (sample : Value) :
    endsBare (segment :: path) sample =
      path.endsBare (representativeOf true false (sample.denoted segment.key)) := by
  rw [endsBare, endsBare, element, unmarked]
  cases path with
  | nil => simp [isMarkedAtEnd, unmarked]
  | cons next path => rfl

theorem endsBare_cons_of_marked (isMarked : segment.isMarked = true) {sample : Value}
    (inside : path = [] →
      (RuleNode.representative (sample.denoted segment.key)).isBare = false) :
    endsBare (segment :: path) sample =
      path.endsBare (RuleNode.representative (sample.denoted segment.key)) := by
  rw [endsBare, endsBare, element, isMarked]
  cases path with
  | nil => simp [isMarkedAtEnd, element, inside]
  | cons next path => rfl

theorem endsBare_of_marked (isMarked : segment.isMarked = true) {sample : Value}
    (bare : (RuleNode.representative (sample.denoted segment.key)).isBare = true) :
    endsBare [segment] sample = true := by
  rw [endsBare, element, element, if_pos isMarked, bare, Bool.and_true]
  exact isMarked

end Steps

/-- The sequence that is found at a marked step is what its key denotes. -/
theorem IsPlain.eq_denoted {front : Path} {segment : Segment} {sample elements : Value}
    (plain : front.IsPlain) (writable : segment.unmarked.IsWritable)
    (found : (parse (format (front ++ [segment.unmarked]))).resolve true sample = .ok elements) :
    elements = (front.reached true sample).denoted segment.key := by
  rw [(plain.append writable).parse_format, resolve_eq_ok_iff, lookUp_concat] at found
  exact found.2

end Path

theorem absolutePath_format {outer path : Path} (outside : ∀ segment ∈ outer, segment.IsWritable)
    (writable : ∀ segment ∈ path, segment.IsWritable) :
    absolutePath outer.format path.format = Path.format (outer ++ path) := by
  rw [absolutePath]
  by_cases top : outer = []
  · rw [if_pos ((Path.format_eq_empty_iff outside).mpr top), top, List.nil_append]
  · rw [if_neg fun blank => top ((Path.format_eq_empty_iff outside).mp blank)]
    by_cases here : path = []
    · rw [if_pos ((Path.format_eq_empty_iff writable).mpr here), here, List.append_nil]
    · rw [if_neg fun blank => here ((Path.format_eq_empty_iff writable).mp blank), Path.format,
        Path.format, Path.format, Path.chars_append top here]
      simp [String.append_assoc]

theorem sequencePath_format {outer path : Path} (outside : ∀ segment ∈ outer, segment.IsWritable)
    (plain : path.IsPlain) :
    sequencePath outer.format path.format = Path.format (outer ++ path) := by
  rw [sequencePath, plain.parse_format, plain.stripped,
    absolutePath_format outside plain.isWritable]

theorem elementBase_sequencePath {outer front : Path} {segment : Segment}
    (outside : ∀ segment ∈ outer, segment.IsWritable) (plain : front.IsPlain)
    (isMarked : segment.isMarked = true) (writable : segment.unmarked.IsWritable) :
    elementBase (sequencePath outer.format (Path.format (front ++ [segment.unmarked]))) =
      Path.format (outer ++ front ++ [segment]) := by
  rw [sequencePath_format outside (plain.append writable), ← List.append_assoc, elementBase,
    Path.format_unmarked_append_marker isMarked]

/-! ## Paths of a rule -/

namespace RuleNode

section Builds

variable {front rest : Path} {sample : Value} {session last : Session} {rule : RuleNode}

/-- The induction on the rule: `outer` leads to the sample from the top of the document, and is
written before the paths in the rule. -/
theorem pathsFrom_of_builds (builds : Builds front rest sample session rule last)
    (plain : front.IsPlain) (writable : ∀ segment ∈ rest, segment.unmarked.IsWritable)
    {outer : Path} (outside : ∀ segment ∈ outer, segment.IsWritable) :
    rule.pathsFrom outer.format =
      (rest.places (rest.endsBare (front.reached true sample))).map fun place =>
        Path.format (outer ++ front ++ place) := by
  induction builds generalizing outer with
  | @condition front sample value session found =>
      rw [pathsFrom]
      change [absolutePath outer.format front.format] = [Path.format (outer ++ front ++ [])]
      rw [absolutePath_format outside plain.isWritable, List.append_nil]
  | @unmarked front rest segment sample session last rule unmarked further ih =>
      obtain ⟨here, later⟩ := List.forall_mem_cons.mp writable
      rw [Path.places_cons_of_unmarked unmarked, Path.endsBare_cons_of_unmarked unmarked,
        ih (plain.concat unmarked here) later outside, Path.reached_concat, List.map_map]
      simp only [Function.comp_def, List.append_assoc, List.singleton_append]
  | @within front rest segment sample elements session last child isMarked found inside further
      ih =>
      obtain ⟨here, later⟩ := List.forall_mem_cons.mp writable
      obtain rfl := plain.eq_denoted here found
      have marked : segment.IsWritable := ⟨here.1, fun _ => here.2 rfl⟩
      have outsideElement : ∀ other ∈ outer ++ front ++ [segment], other.IsWritable :=
        List.forall_mem_append.mpr ⟨List.forall_mem_append.mpr ⟨outside, plain.isWritable⟩,
          List.forall_mem_singleton.mpr marked⟩
      have below := ih Path.isPlain_nil later outsideElement
      rw [pathsFrom, pathsFromAll, pathsFromAll, List.append_nil, Value.pathText_text,
        elementBase_sequencePath outside plain isMarked here, below,
        sequencePath_format outside (plain.append here), Path.places_cons_of_marked isMarked,
        Path.endsBare_cons_of_marked isMarked inside, List.map_cons, List.map_map]
      simp only [Function.comp_def, List.append_assoc, List.singleton_append, List.append_nil]
      rfl
  | @bare front segment sample elements session isMarked found isBare =>
      obtain ⟨here, -⟩ := List.forall_mem_cons.mp writable
      obtain rfl := plain.eq_denoted here found
      rw [pathsFrom, pathsFromAll, Value.pathText_text,
        sequencePath_format outside (plain.append here), Path.places_cons_of_marked isMarked,
        Path.endsBare_of_marked isMarked isBare, ← List.append_assoc]
      rfl

/-- Every path in the rule is written for steps that are not marked. -/
theorem exists_isPlain_of_builds (builds : Builds front rest sample session rule last)
    (plain : front.IsPlain) (writable : ∀ segment ∈ rest, segment.unmarked.IsWritable) :
    ∀ node ∈ rule.nodes, ∀ value ∈ node.path?, ∃ path : Path, path.IsPlain ∧
      value = .text path.format := by
  induction builds with
  | condition found =>
      intro node member value given
      cases List.mem_singleton.mp member
      cases given
      exact ⟨_, plain, rfl⟩
  | unmarked unmarked further ih =>
      obtain ⟨here, later⟩ := List.forall_mem_cons.mp writable
      exact ih (plain.concat unmarked here) later
  | within isMarked found inside further ih =>
      obtain ⟨here, later⟩ := List.forall_mem_cons.mp writable
      intro node member value given
      rcases mem_nodes_array.mp member with rfl | rfl | ⟨child, only, member⟩
      · cases given
        exact ⟨_, plain.append here, rfl⟩
      · cases given
      · cases List.mem_singleton.mp only
        exact ih Path.isPlain_nil later node member value given
  | bare isMarked found isBare =>
      obtain ⟨here, -⟩ := List.forall_mem_cons.mp writable
      intro node member value given
      rcases mem_nodes_array.mp member with rfl | rfl | ⟨child, nothing, -⟩
      · cases given
        exact ⟨_, plain.append here, rfl⟩
      · cases given
      · cases nothing

end Builds

/-- What a rule for a location of a sample has of it, when it has been built in a session and up to
another one. -/
structure KeepsPath (path : Path) (sample : Value) (session : Session) (rule : RuleNode)
    (last : Session) : Prop where
  /-- The rule reads the sequences on the way and the location, unless this ends bare. -/
  used : rule.usedPaths =
    .ok ((path.places (path.endsBare sample)).map fun place => .text place.format)
  concrete : ∀ node ∈ rule.nodes, ∀ value ∈ node.path?, ∃ text, value = .text text ∧
    (Path.parse text).isConcrete = true
  /-- Loaded in the same session, the portable form of the rule is the rule. -/
  reloaded : ∀ maxDepth : Int, rule.depth ≤ maxDepth →
    (ofPortable maxDepth rule.portable).run session = (.ok rule, last)

/-- A rule for a location of a sample keeps the location, when the keys on the way are plain. -/
theorem keepsPath_of_scaffold {text : String} {sample : Value} {session last : Session}
    {rule : RuleNode} (plain : (Path.parse text).HasPlainKeys)
    (built : (scaffold (Path.parse text) sample).run session = (.ok rule, last)) :
    KeepsPath (Path.parse text) sample session rule last := by
  have builds := builds_of_scaffoldFrom built
  have writable := Path.isWritable_unmarked plain
  have paths := exists_isPlain_of_builds builds Path.isPlain_nil writable
  have texts : rule.HasTextPaths := by
    intro node member value given
    obtain ⟨path, -, rfl⟩ := paths node member value given
    exact ⟨path.format, rfl⟩
  refine { used := ?_, concrete := ?_, reloaded := ?_ }
  · have read : rule.pathsFrom "" =
        ((Path.parse text).places ((Path.parse text).endsBare sample)).map Path.format :=
      pathsFrom_of_builds builds Path.isPlain_nil writable (List.forall_mem_nil _)
    rw [usedPaths_eq_reported texts, read,
      reported_of_nodup (Path.nodup_format_places _ writable), List.map_map]
    rfl
  · intro node member value given
    obtain ⟨path, unmarked, rfl⟩ := paths node member value given
    refine ⟨path.format, rfl, ?_⟩
    rw [unmarked.parse_format, unmarked.isConcrete]
  · intro maxDepth shallow
    have within : rule.depth ≤ maxDepth.toNat := by omega
    rw [ofPortable, load_portable texts within "$" session, canonical_of_builds builds,
      renumber_of_builds builds]

/-- The innermost sequence of the profile has a plain element, which the rule reads too. -/
theorem keepsPath_termsProfile :
    (Path.parse termsPath.format).HasPlainKeys ∧
      ∃ rule last, (scaffold (Path.parse termsPath.format) termsProfile).run
          (.fresh Session.defaultStem) = (.ok rule, last) ∧
        rule.usedPaths = .ok [.text "cursus_users", .text "cursus_users[].terms",
          .text "cursus_users[].terms[].0", .text "cursus_users[].terms[].0[]"] ∧
        (ofPortable 7 rule.portable).run (.fresh Session.defaultStem) = (.ok rule, last) ∧
        KeepsPath (Path.parse termsPath.format) termsProfile (.fresh Session.defaultStem) rule
          last := by
  have plain : (Path.parse termsPath.format).HasPlainKeys := by
    unfold Path.HasPlainKeys Segment.HasPlainKey
    decide +kernel
  have finds : ((scaffold (Path.parse termsPath.format) termsProfile).run
      (.fresh Session.defaultStem)).1.toOption.any (fun rule => rule.depth ≤ 7) = true := by
    decide +kernel
  refine ⟨plain, ?_⟩
  rcases built : (scaffold (Path.parse termsPath.format) termsProfile).run
      (.fresh Session.defaultStem) with ⟨fault | rule, last⟩
  · rw [built] at finds
    cases finds
  · rw [built] at finds
    have shallow : rule.depth ≤ 7 := of_decide_eq_true finds
    have keeps := keepsPath_of_scaffold plain built
    exact ⟨rule, last, rfl, keeps.used, keeps.reloaded 7 (by omega), keeps⟩

end RuleNode

end Rulebook
