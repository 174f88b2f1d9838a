import Assurance.Proofs.SafeInt.Reduction
import Mathlib.Algebra.Order.BigOperators.Group.List

namespace Assurance
namespace SafeInt

/-!
# Rearranged sums and products

A list of values can be summed up in any order and with any brackets.  In
integers without bounds this makes no difference, so two arrangements that are
both valid always agree, and the same holds for products.

Whether an arrangement is valid is another matter, since every part of it has to
be in range.  For unsigned kinds no part of a sum exceeds the whole, so there all
arrangements are valid together and sums may be rearranged freely.  For signed
kinds, and for products, they may not: a compensating value or a zero can come
too late.

Main statement: `SafeInt.rearrangement_agrees`.
-/

variable {kind : IntKind}

/-- A way to put brackets around values. -/
inductive Bracketing (kind : IntKind) where
  | single (value : SafeInt kind)
  | joined (left right : Bracketing kind)

namespace Bracketing

def leaves : Bracketing kind → List (SafeInt kind)
  | single value => [value]
  | joined left right => left.leaves ++ right.leaves

/-- The value of a bracketing with the operator of a reduction at every pair of brackets. -/
def reduced (reduction : Reduction) : Bracketing kind → SafeInt kind
  | single value => value
  | joined left right => reduction.join (left.reduced reduction) (right.reduced reduction)

theorem canonical_reduced (reduction : Reduction) {tree : Bracketing kind}
    (canonical : ∀ leaf ∈ tree.leaves, leaf.Canonical) : (tree.reduced reduction).Canonical := by
  cases tree with
  | single value => exact canonical value List.mem_cons_self
  | joined left right => exact reduction.canonical_join _ _

/-- A valid bracketing has the exact total of its leaves, wherever its brackets are. -/
theorem stored_reduced {reduction : Reduction} {tree : Bracketing kind}
    (valid : (tree.reduced reduction).isValid = true) :
    (tree.reduced reduction).stored.toInt = reduction.total tree.leaves := by
  induction tree with
  | single value => exact (reduction.total_singleton value).symm
  | joined left right leftHypothesis rightHypothesis =>
      rcases Reduction.isValid_join_iff.mp valid with ⟨⟨leftValid, rightValid⟩, -⟩
      rw [leaves, reduction.total_append, ← leftHypothesis leftValid,
        ← rightHypothesis rightValid]
      exact Reduction.stored_join valid

end Bracketing

theorem Reduction.total_perm (reduction : Reduction) {first second : List (SafeInt kind)}
    (rearranged : first.Perm second) : reduction.total first = reduction.total second := by
  cases reduction with
  | sum => exact (rearranged.map _).sum_eq
  | product => exact (rearranged.map _).prod_eq

section Unsigned

variable (unsigned : kind.signed = false)

include unsigned

theorem total_sum_nonneg (values : List (SafeInt kind)) : 0 ≤ Reduction.sum.total values := by
  refine List.sum_nonneg ?_
  intro summand member
  rcases List.mem_map.mp member with ⟨value, -, rfl⟩
  exact IntKind.min_eq_zero_of_unsigned unsigned ▸ value.stored.inRange.1

/-- No part of a sum exceeds the whole. -/
theorem inRange_total_parts {front later : List (SafeInt kind)}
    (whole : kind.InRange (Reduction.sum.total (front ++ later))) :
    kind.InRange (Reduction.sum.total front) ∧ kind.InRange (Reduction.sum.total later) := by
  have frontNonneg := total_sum_nonneg unsigned front
  have laterNonneg := total_sum_nonneg unsigned later
  have parts : Reduction.sum.total (front ++ later) =
      Reduction.sum.total front + Reduction.sum.total later :=
    Reduction.sum.total_append front later
  have least := IntKind.min_eq_zero_of_unsigned unsigned
  rcases whole with ⟨-, upper⟩
  exact ⟨⟨by omega, by omega⟩, ⟨by omega, by omega⟩⟩

theorem isValid_reduced_sum_iff (tree : Bracketing kind) :
    (tree.reduced .sum).isValid = true ↔
      (∀ leaf ∈ tree.leaves, leaf.isValid = true) ∧
        kind.InRange (Reduction.sum.total tree.leaves) := by
  induction tree with
  | single value =>
      rw [Bracketing.leaves, List.forall_mem_singleton, Reduction.total_singleton]
      exact ⟨fun valid => ⟨valid, value.stored.inRange⟩, fun both => both.1⟩
  | joined left right leftHypothesis rightHypothesis =>
      have parts := Reduction.sum.total_append left.leaves right.leaves
      rw [Bracketing.reduced, Reduction.isValid_join_iff, Bracketing.leaves,
        List.forall_mem_append]
      constructor
      · rintro ⟨⟨leftValid, rightValid⟩, inside⟩
        rw [Bracketing.stored_reduced leftValid, Bracketing.stored_reduced rightValid,
          ← parts] at inside
        exact ⟨⟨(leftHypothesis.mp leftValid).1, (rightHypothesis.mp rightValid).1⟩, inside⟩
      · rintro ⟨⟨leftLeaves, rightLeaves⟩, inside⟩
        -- The whole bounds both parts, so they are valid before they are added.
        rcases inRange_total_parts unsigned inside with ⟨leftInside, rightInside⟩
        have leftValid := leftHypothesis.mpr ⟨leftLeaves, leftInside⟩
        have rightValid := rightHypothesis.mpr ⟨rightLeaves, rightInside⟩
        rw [Bracketing.stored_reduced leftValid, Bracketing.stored_reduced rightValid, ← parts]
        exact ⟨⟨leftValid, rightValid⟩, inside⟩

/-- The sum of a list is valid under the same condition, since its prefixes are parts of it. -/
theorem isValid_sum_iff (values : List (SafeInt kind)) :
    (SafeInt.sum values).isValid = true ↔
      (∀ value ∈ values, value.isValid = true) ∧ kind.InRange (Reduction.sum.total values) := by
  refine (Reduction.sum.isValid_run_iff values).trans ?_
  constructor
  · intro stays
    exact ⟨stays.valid, stays.inside values List.prefix_rfl⟩
  · rintro ⟨valid, inside⟩
    refine ⟨valid, ?_⟩
    rintro front ⟨later, rfl⟩
    exact (inRange_total_parts unsigned inside).1

theorem reduced_sum_eq {values : List (SafeInt kind)}
    (canonical : ∀ value ∈ values, value.Canonical) {tree : Bracketing kind}
    (rearranged : tree.leaves.Perm values) : tree.reduced .sum = SafeInt.sum values := by
  have sameTotal : Reduction.sum.total tree.leaves = Reduction.sum.total values :=
    Reduction.sum.total_perm rearranged
  have together : (tree.reduced .sum).isValid = true ↔ (SafeInt.sum values).isValid = true := by
    rw [isValid_reduced_sum_iff unsigned, isValid_sum_iff unsigned, sameTotal]
    simp only [rearranged.mem_iff]
  refine eq_of_agrees ?_ (Reduction.sum.canonical_run values) together ?_
  · refine Bracketing.canonical_reduced .sum ?_
    intro leaf member
    exact canonical leaf (rearranged.mem_iff.mp member)
  · intro valid
    have sumTotal : (Reduction.sum.run (.values values)).stored.toInt =
        Reduction.sum.total values := Reduction.stored_run (together.mp valid)
    rw [Bracketing.stored_reduced valid, sameTotal]
    exact sumTotal.symm

end Unsigned

/-- The values of a list are canonical, as all are that can be built.  For an unsigned kind, every
bracketing of every permutation of the list gives its sum, poison included.  For every kind, two
bracketings of permutations of the list that are both valid are equal, as sums and as products. -/
theorem rearrangement_agrees (values : List (SafeInt kind))
    (canonical : ∀ value ∈ values, value.Canonical) :
    (kind.signed = false → ∀ tree : Bracketing kind, tree.leaves.Perm values →
      tree.reduced .sum = SafeInt.sum values) ∧
    ∀ (reduction : Reduction) (first second : Bracketing kind),
      first.leaves.Perm values → second.leaves.Perm values →
      (first.reduced reduction).isValid = true → (second.reduced reduction).isValid = true →
        first.reduced reduction = second.reduced reduction := by
  constructor
  · intro unsigned tree rearranged
    exact reduced_sum_eq unsigned canonical rearranged
  · intro reduction first second firstRearranged secondRearranged firstValid secondValid
    have sameTotal := reduction.total_perm (firstRearranged.trans secondRearranged.symm)
    rw [eq_ofWord_of_isValid firstValid, eq_ofWord_of_isValid secondValid]
    refine congrArg ofWord (Word.ext ?_)
    rw [Bracketing.stored_reduced firstValid, Bracketing.stored_reduced secondValid, sameTotal]

/-- Three unsigned values that just fit, in another order and with other brackets, one of them
poisoned in a second list; and two arrangements of three signed values, neither of which leaves the
range. -/
theorem rearrangement_agrees_at_the_limit :
    let small : SafeInt .u8 := ofWord ⟨55, by decide⟩
    let big : SafeInt .u8 := ofWord ⟨100, by decide⟩
    let positive : SafeInt .i8 := ofWord ⟨100, by decide⟩
    let negative : SafeInt .i8 := ofWord ⟨-100, by decide⟩
    let first : Bracketing .i8 :=
      .joined (.joined (.single positive) (.single negative)) (.single positive)
    let second : Bracketing .i8 :=
      .joined (.single positive) (.joined (.single positive) (.single negative))
    (Bracketing.joined (.single big) (.joined (.single small) (.single big))).reduced .sum =
        SafeInt.sum [big, big, small] ∧
      (Bracketing.joined (.single (failure .u8)) (.single big)).reduced .sum =
        SafeInt.sum [big, failure .u8] ∧
      first.reduced .sum = second.reduced .sum := by
  intro small big positive negative first second
  refine ⟨?_, ?_, ?_⟩
  · refine (rearrangement_agrees [big, big, small] ?_).1 rfl _ (by decide)
    simp [big, small, canonical_ofWord]
  · refine (rearrangement_agrees [big, failure .u8] ?_).1 rfl _ (by decide)
    simp [big, canonical_ofWord, canonical_failure]
  · refine (rearrangement_agrees [positive, positive, negative] ?_).2 .sum first second (by decide)
      (by decide) (by decide) (by decide)
    simp [positive, negative, canonical_ofWord]

/-- The third arrangement of the signed values does leave the range. -/
example :
    let positive : SafeInt .i8 := ofWord ⟨100, by decide⟩
    let negative : SafeInt .i8 := ofWord ⟨-100, by decide⟩
    (Bracketing.joined (.joined (.single positive) (.single positive)) (.single negative)).reduced
      .sum = failure .i8 := by
  decide

end SafeInt
end Assurance
