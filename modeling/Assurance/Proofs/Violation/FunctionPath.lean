import Assurance.Violation.Location

namespace Assurance
namespace Location

/-!
# Trimmed function paths

The path of a marker item ends in the marker, and before that in one segment for
each closure around the item.  Trimming cuts the marker off once and then goes
round a loop that cuts off one closure segment at a time.

Every round makes the path shorter, so the loop ends, and it ends at the first
path that has no closure segment at its end.  Nothing else can be cut: segments
in the middle of a path are kept, and so is an end that only resembles a segment.

Main statement: `enclosingFunction_trims`.
-/

def EndsInClosure (path : String) : Prop := closureSegment <:+ path.toList

def EndsInMarker (path : String) : Prop := markerSegment <:+ path.toList

instance (path : String) : Decidable (EndsInClosure path) :=
  inferInstanceAs (Decidable (closureSegment <:+ path.toList))

/-- The segments of closures nested to some depth. -/
def closures (depth : Nat) : List Char := (List.replicate depth closureSegment).flatten

theorem closures_succ (depth : Nat) : closures (depth + 1) = closures depth ++ closureSegment := by
  rw [closures, List.replicate_succ', List.flatten_append, List.flatten_singleton]
  rfl

theorem length_closures (depth : Nat) :
    (closures depth).length = depth * closureSegment.length := by
  rw [closures, List.length_flatten, List.map_replicate, List.sum_replicate_nat]

theorem withoutSuffix?_eq_none_iff {suffix text : List Char} :
    withoutSuffix? suffix text = none ↔ ¬ suffix <:+ text := by
  rw [← List.isSuffixOf_iff_suffix, withoutSuffix?]
  split <;> simp_all

/-- The loop goes round some number of times from one path, and stops at another. -/
inductive Trims : (rounds : Nat) → (path result : List Char) → Prop where
  | stop {path : List Char} (kept : ¬ closureSegment <:+ path) : Trims 0 path path
  | round {rounds : Nat} {front result : List Char} (rest : Trims rounds front result) :
      Trims (rounds + 1) (front ++ closureSegment) result

namespace Trims

variable {rounds : Nat} {path result : List Char}

theorem not_endsInClosure (trims : Trims rounds path result) : ¬ closureSegment <:+ result := by
  induction trims with
  | stop kept => exact kept
  | round rest inductionHypothesis => exact inductionHypothesis

/-- Only the segments of closures are cut off, one in each round. -/
theorem path_eq (trims : Trims rounds path result) : path = result ++ closures rounds := by
  induction trims with
  | stop kept => exact (List.append_nil _).symm
  | round rest inductionHypothesis =>
      rw [closures_succ, ← List.append_assoc, ← inductionHypothesis]

theorem length_le (trims : Trims rounds path result) :
    rounds * closureSegment.length + result.length ≤ path.length := by
  have whole := congrArg List.length trims.path_eq
  rw [List.length_append, length_closures, Nat.add_comm] at whole
  exact Nat.le_of_eq whole.symm

theorem dropClosures_eq (trims : Trims rounds path result) : dropClosures path = result := by
  induction trims with
  | stop kept => exact dropClosures_of_none (withoutSuffix?_eq_none_iff.mpr kept)
  | @round rounds front result rest inductionHypothesis =>
      rw [dropClosures_append]
      exact inductionHypothesis

end Trims

/-- The loop comes to an end from every path. -/
theorem exists_trims (path : List Char) : ∃ rounds, Trims rounds path (dropClosures path) := by
  fun_induction dropClosures path with
  | case1 path front cut inductionHypothesis =>
      rcases inductionHypothesis with ⟨rounds, trims⟩
      refine ⟨rounds + 1, ?_⟩
      rw [append_of_withoutSuffix? cut]
      exact trims.round
  | case2 path kept => exact ⟨0, .stop (withoutSuffix?_eq_none_iff.mp kept)⟩

theorem trims_append_closures {path : List Char} (kept : ¬ closureSegment <:+ path)
    (depth : Nat) : Trims depth (path ++ closures depth) path := by
  induction depth with
  | zero =>
      rw [closures, List.replicate_zero, List.flatten_nil, List.append_nil]
      exact .stop kept
  | succ depth inductionHypothesis =>
      rw [closures_succ, ← List.append_assoc]
      exact inductionHypothesis.round

/-- The path without a marker at its end, which is where the loop starts. -/
def unmarked (path : List Char) : List Char := (withoutSuffix? markerSegment path).getD path

theorem trimPath_eq (path : List Char) : trimPath path = dropClosures (unmarked path) := rfl

theorem unmarked_append (path : List Char) : unmarked (path ++ markerSegment) = path := by
  rw [unmarked, withoutSuffix?_append, Option.getD_some]

theorem unmarked_of_not_suffix {path : List Char} (kept : ¬ markerSegment <:+ path) :
    unmarked path = path := by
  rw [unmarked, withoutSuffix?_eq_none_iff.mpr kept, Option.getD_none]

theorem prefix_of_unmarked (path : List Char) : unmarked path <+: path := by
  by_cases ends : markerSegment <:+ path
  · rcases ends with ⟨front, rfl⟩
    rw [unmarked_append]
    exact List.prefix_append front markerSegment
  · exact ⟨[], (List.append_nil _).trans (unmarked_of_not_suffix ends)⟩

theorem prefix_of_trimPath (path : List Char) : trimPath path <+: path := by
  rcases exists_trims (unmarked path) with ⟨rounds, trims⟩
  have cut : trimPath path <+: unmarked path := by
    rw [trims.path_eq, trimPath_eq]
    exact List.prefix_append _ (closures rounds)
  exact cut.trans (prefix_of_unmarked path)

/-- A path with neither segment at its end is trimmed already. -/
theorem trimPath_of_not_suffix {path : List Char} (noMarker : ¬ markerSegment <:+ path)
    (noClosure : ¬ closureSegment <:+ path) : trimPath path = path := by
  rw [trimPath_eq, unmarked_of_not_suffix noMarker]
  exact (Trims.stop noClosure).dropClosures_eq

/-- A marker at the end is never kept. -/
theorem trimPath_ne_of_suffix {path : List Char} (ends : markerSegment <:+ path) :
    trimPath path ≠ path := by
  rcases ends with ⟨front, rfl⟩
  rcases exists_trims front with ⟨rounds, trims⟩
  have shorter : (trimPath (front ++ markerSegment)).length ≤ front.length := by
    rw [trimPath_eq, unmarked_append]
    exact Nat.le_trans (Nat.le_add_left _ _) trims.length_le
  have marked : 0 < markerSegment.length := by decide
  intro same
  rw [same, List.length_append] at shorter
  omega

theorem toList_enclosingFunction (path : String) :
    (enclosingFunction path).toList = trimPath path.toList := by
  rw [enclosingFunction, String.toList_ofList]

/-- A path that does not end in the segment of a closure is found again from its marker, however
many closures the marker is nested in; the loop goes round exactly once for each of them.

From any text at all the loop comes to an end, after no more rounds than there are segments in the
text.  Its result does not end in the segment of a closure and is a prefix of the text, and trimming
it once more changes nothing exactly if it does not end in a marker. -/
theorem enclosingFunction_trims :
    (∀ (path : String) (depth : Nat), ¬ EndsInClosure path →
      let nested := path ++ String.ofList (closures depth)
      Trims depth nested.toList path.toList ∧
        enclosingFunction (nested ++ String.ofList markerSegment) = path) ∧
    ∀ text : String,
      let trimmed := enclosingFunction text
      (∃ rounds, Trims rounds (unmarked text.toList) trimmed.toList ∧
        rounds * closureSegment.length + trimmed.length ≤ text.length) ∧
      ¬ EndsInClosure trimmed ∧
      trimmed.toList <+: text.toList ∧
      (enclosingFunction trimmed = trimmed ↔ ¬ EndsInMarker trimmed) := by
  constructor
  · intro path depth kept nested
    have chars : nested.toList = path.toList ++ closures depth := by
      rw [String.toList_append, String.toList_ofList]
    have trims : Trims depth nested.toList path.toList := by
      rw [chars]
      exact trims_append_closures kept depth
    refine ⟨trims, ?_⟩
    rw [← String.toList_inj, toList_enclosingFunction, String.toList_append, String.toList_ofList,
      trimPath_eq, unmarked_append]
    exact trims.dropClosures_eq
  · intro text trimmed
    have chars : trimmed.toList = trimPath text.toList := toList_enclosingFunction text
    rcases exists_trims (unmarked text.toList) with ⟨rounds, loop⟩
    have trims : Trims rounds (unmarked text.toList) trimmed.toList := by
      rw [chars]
      exact loop
    have noClosure : ¬ EndsInClosure trimmed := trims.not_endsInClosure
    refine ⟨⟨rounds, trims, ?_⟩, noClosure, ?_, ?_⟩
    · rw [← String.length_toList, ← String.length_toList]
      exact Nat.le_trans trims.length_le (prefix_of_unmarked text.toList).length_le
    · rw [chars]
      exact prefix_of_trimPath text.toList
    · rw [← String.toList_inj, toList_enclosingFunction]
      constructor
      · intro same ends
        exact trimPath_ne_of_suffix ends same
      · intro noMarker
        exact trimPath_of_not_suffix noMarker noClosure

/-- A function whose own path has a closure in the middle and ends like the segment of one. -/
theorem enclosingFunction_trims_look_alike :
    let path : String := "a::\x7b\x7bclosure\x7d\x7d::b::\x7bclosure\x7d\x7d"
    let marked : String :=
      path ++ "::\x7b\x7bclosure\x7d\x7d::\x7b\x7bclosure\x7d\x7d" ++ "::__guardrail_marker"
    ¬ EndsInClosure path ∧ enclosingFunction marked = path := by
  intro path marked
  have kept : ¬ EndsInClosure path := by decide
  exact ⟨kept, (enclosingFunction_trims.1 path 2 kept).2⟩

end Location
end Assurance
