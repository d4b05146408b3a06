import Rulebook.Proofs.Path.Resolution
import Rulebook.Proofs.Path.Written
import Rulebook.Proofs.Results

/-!
# Joined paths

A path that is written behind another one, with a dot between them, goes on where the first one
leads, and stops where either of them does.
-/

namespace Rulebook.Path

/-- The steps of joined paths are those of the first one and then those of the second one. -/
theorem parse_append_dot (front rest : String) :
    parse (front ++ "." ++ rest) = parse front ++ parse rest := by
  have text : (front ++ "." ++ rest).toList = front.toList ++ '.' :: rest.toList := by
    rw [String.toList_append, String.toList_append, List.append_assoc]
    rfl
  rw [parse, text, ofChars, Text.splitOnChar_append_separator, List.filter_append,
    List.map_append]
  rfl

/-- The second of two paths is followed from where the first one leads.  A sequence there is
represented by an element unless one of the paths has no steps. -/
theorem resolve_append (representative : Bool) (front rest : Path) (document : Value) :
    (front ++ rest).resolve representative document =
      front.resolve representative document >>= fun reached =>
        rest.resolve representative
          (representativeOf representative (front.isEmpty || rest.isEmpty) reached) := by
  induction front generalizing document with
  | nil =>
      rw [List.nil_append, resolve, List.isEmpty_nil, Bool.true_or]
      change _ = rest.resolve _ (representativeOf _ _ _)
      rw [representativeOf_last]
  | cons segment front ih =>
      rw [List.cons_append, resolve_cons, resolve_cons, bind_assoc]
      refine bind_congr fun value => ?_
      rw [ih]
      cases front with
      | nil =>
          change rest.resolve _ (representativeOf _ _ (representativeOf _ _ _)) =
            rest.resolve _ (representativeOf _ _ (representativeOf _ _ _))
          simp only [List.nil_append, List.isEmpty_nil, Bool.true_or, representativeOf_last]
          rfl
      | cons next front => rfl

/-- What a path does that is joined of two. -/
structure JoiningLaws (front rest : String) : Prop where
  parse_eq : parse (front ++ "." ++ rest) = parse front ++ parse rest
  /-- The second path is followed from the value that the first one leads to. -/
  resolve_eq : ∀ document, (parse (front ++ "." ++ rest)).resolve false document =
    (parse front).resolve false document >>= (parse rest).resolve false
  absent : ∀ document, (parse front).resolve false document = .ok .absent →
    (parse (front ++ "." ++ rest)).resolve false document = .ok .absent
  stops_iff : ∀ document fault,
    (parse (front ++ "." ++ rest)).resolve false document = .error fault ↔
      (parse front).resolve false document = .error fault ∨
        ∃ reached, (parse front).resolve false document = .ok reached ∧
          (parse rest).resolve false reached = .error fault

/-- Joining written paths is going on from where the first one leads. -/
theorem joiningLaws (front rest : String) : JoiningLaws front rest := by
  have parsed := parse_append_dot front rest
  have resolved (document : Value) : (parse (front ++ "." ++ rest)).resolve false document =
      (parse front).resolve false document >>= (parse rest).resolve false := by
    rw [parsed, resolve_append]
    rfl
  refine ⟨parsed, resolved, fun document missing => ?_, fun document fault => ?_⟩
  · rw [resolved, missing]
    exact resolve_absent false (parse rest)
  · rw [resolved, Except.bind_eq_error]

/-- A student with an entry that is null and one with a level. -/
def enrolment : Value :=
  .mapping [("cursus", .list [.null, .mapping [("level", .int 7)]])]

/-- The level is the one of the second entry; below a missing campus nothing is found; and a digit
sign stops the walk through the entries. -/
theorem joiningLaws_enrolment :
    (parse ("cursus[]" ++ "." ++ "1.level")).resolve false enrolment = .ok (.int 7) ∧
      (parse "campus").resolve false enrolment = .ok .absent ∧
      (parse ("campus" ++ "." ++ "²")).resolve false enrolment = .ok .absent ∧
      (parse ("cursus" ++ "." ++ "²")).resolve false enrolment = .error (.badIndex "²") := by
  have missing : (parse "campus").resolve false enrolment = .ok .absent := rfl
  refine ⟨?_, missing, (joiningLaws _ _).absent enrolment missing, ?_⟩
  · rw [(joiningLaws _ _).resolve_eq]
    rfl
  · exact ((joiningLaws _ _).stops_iff enrolment _).mpr (.inr ⟨_, rfl, rfl⟩)

end Rulebook.Path
