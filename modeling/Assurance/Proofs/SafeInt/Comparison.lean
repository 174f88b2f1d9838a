import Mathlib.Data.Int.Order.Basic
import Mathlib.Order.Compare
import Assurance.SafeInt.Order

namespace Assurance
namespace SafeInt

/-!
# One order for every comparison

A comparison has a safe integer on one side and a safe integer or a word on the
other.  Each side has a rank among the integers: the word that it stores or is.
A poisoned value stores zero, so it takes part in the order at the rank zero, and
whether it is poisoned is not asked.

Every test in every form is a test on the two ranks.  Exchanging the sides is
therefore the mirror image of a comparison, tests can be chained whatever forms
their links have, and values that compare as equal have the same hash key.  The
smaller and the greater of two valid values are the two values again, in order.

Main statement: `SafeInt.comparisons_form_one_order`.
-/

variable {kind : IntKind}

/-- What stands on a side of a comparison. -/
inductive Side (kind : IntKind) where
  | value (value : SafeInt kind) (canonical : value.Canonical)
  | word (word : Word kind)

namespace Side

/-- The integer that a side counts as.  A poisoned value counts as zero. -/
def rank : Side kind → Int
  | value operand _ => if operand.poisoned then 0 else operand.stored.toInt
  | word operand => operand.toInt

/-- The comparison with another side.  Between two words there is none: it does not concern safe
integers. -/
def against? : Side kind → Side kind → Option (Comparison kind)
  | value left _, value right _ => some (.values left right)
  | value left _, word right => some (.withWord left right)
  | word left, value right _ => some (.wordOnLeft left right)
  | word _, word _ => none

theorem rank_value {operand : SafeInt kind} (canonical : operand.Canonical) :
    (value operand canonical).rank = operand.stored.toInt := by
  by_cases poisoned : operand.poisoned = true
  · rw [rank, if_pos poisoned, canonical poisoned]
    rfl
  · rw [rank, if_neg poisoned]

theorem sides_against {left right : Side kind} {comparison : Comparison kind}
    (compared : left.against? right = some comparison) :
    comparison.sides.1.toInt = left.rank ∧ comparison.sides.2.toInt = right.rank := by
  cases left with
  | value left leftCanonical =>
      cases right with
      | value right rightCanonical =>
          cases compared
          exact ⟨(rank_value leftCanonical).symm, (rank_value rightCanonical).symm⟩
      | word right =>
          cases compared
          exact ⟨(rank_value leftCanonical).symm, rfl⟩
  | word left =>
      cases right with
      | value right rightCanonical =>
          cases compared
          exact ⟨rfl, (rank_value rightCanonical).symm⟩
      | word right => cases compared

theorem exists_against_swap {left right : Side kind} {comparison : Comparison kind}
    (compared : left.against? right = some comparison) :
    ∃ mirrored, right.against? left = some mirrored := by
  cases left with
  | value => cases right <;> exact ⟨_, rfl⟩
  | word =>
      cases right with
      | value => exact ⟨_, rfl⟩
      | word => cases compared

end Side

/-- The tests that a comparison answers. -/
inductive Test where
  | lt | le | gt | ge | eq | ne
deriving DecidableEq, Repr

namespace Test

def outcome : Test → Comparison kind → Bool
  | lt => Comparison.lt
  | le => Comparison.le
  | gt => Comparison.gt
  | ge => Comparison.ge
  | eq => Comparison.eq
  | ne => Comparison.ne

/-- What a test asks of two integers. -/
def Holds : Test → Int → Int → Prop
  | lt, left, right => left < right
  | le, left, right => left ≤ right
  | gt, left, right => left > right
  | ge, left, right => left ≥ right
  | eq, left, right => left = right
  | ne, left, right => left ≠ right

/-- The test that asks the same with the sides exchanged. -/
def mirror : Test → Test
  | lt => gt
  | le => ge
  | gt => lt
  | ge => le
  | eq => eq
  | ne => ne

/-- What follows for the outer two of three sides from a test on the first two and one on the last
two. -/
def compose? : Test → Test → Option Test
  | eq, next => some next
  | first, eq => some first
  | le, le => some le
  | lt, lt | lt, le | le, lt => some lt
  | ge, ge => some ge
  | gt, gt | gt, ge | ge, gt => some gt
  | _, _ => none

theorem outcome_iff_sides (test : Test) (comparison : Comparison kind) :
    test.outcome comparison = true ↔
      test.Holds comparison.sides.1.toInt comparison.sides.2.toInt := by
  cases test with
  | lt => exact beq_iff_eq.trans compare_lt_iff_lt
  | le => exact bne_iff_ne.trans compare_le_iff_le
  | gt => exact beq_iff_eq.trans compare_gt_iff_gt
  | ge => exact bne_iff_ne.trans compare_ge_iff_ge
  | eq => exact beq_iff_eq.trans Word.ext_iff
  | ne =>
      have differ : comparison.ne = true ↔ ¬ comparison.eq = true := by simp [Comparison.ne]
      exact differ.trans (not_congr (beq_iff_eq.trans Word.ext_iff))

theorem outcome_iff (test : Test) {left right : Side kind} {comparison : Comparison kind}
    (compared : left.against? right = some comparison) :
    test.outcome comparison = true ↔ test.Holds left.rank right.rank := by
  rcases Side.sides_against compared with ⟨leftRank, rightRank⟩
  rw [outcome_iff_sides, leftRank, rightRank]

theorem holds_mirror_iff (test : Test) (left right : Int) :
    test.mirror.Holds left right ↔ test.Holds right left := by
  cases test with
  | lt | le | gt | ge => exact Iff.rfl
  | eq => exact eq_comm
  | ne => exact ne_comm

theorem holds_of_compose {first next whole : Test} (composed : first.compose? next = some whole)
    {left middle right : Int} (before : first.Holds left middle) (after : next.Holds middle right) :
    whole.Holds left right := by
  cases first <;> cases next <;> cases composed <;> simp only [Holds] at before after ⊢ <;> omega

end Test

/-- Tests that were passed one after the other, in any forms, and what they amount to. -/
inductive Chain : Test → Side kind → Side kind → Prop where
  | single {test : Test} {left right : Side kind} {comparison : Comparison kind}
      (compared : left.against? right = some comparison)
      (passed : test.outcome comparison = true) : Chain test left right
  | longer {first next whole : Test} {left middle right : Side kind} {comparison : Comparison kind}
      (start : Chain first left middle) (compared : middle.against? right = some comparison)
      (passed : next.outcome comparison = true) (composed : first.compose? next = some whole) :
      Chain whole left right

theorem Chain.holds {test : Test} {left right : Side kind} (chain : Chain test left right) :
    test.Holds left.rank right.rank := by
  induction chain with
  | single compared passed => exact (Test.outcome_iff _ compared).mp passed
  | longer start compared passed composed inductionHypothesis =>
      exact Test.holds_of_compose composed inductionHypothesis
        ((Test.outcome_iff _ compared).mp passed)

theorem smaller_greater_cases {left right : SafeInt kind} (leftValid : left.isValid = true)
    (rightValid : right.isValid = true) :
    (left.stored.toInt ≤ right.stored.toInt ∧
      left.smaller right = left ∧ left.greater right = right) ∨
    (right.stored.toInt ≤ left.stored.toInt ∧
      left.smaller right = right ∧ left.greater right = left) := by
  unfold smaller greater
  rw [lift_of_isValid _ leftValid rightValid, lift_of_isValid _ leftValid rightValid]
  by_cases descending : right.stored.toInt < left.stored.toInt
  · right
    rw [if_pos descending, if_pos descending]
    exact ⟨descending.le, (eq_ofWord_of_isValid rightValid).symm,
      (eq_ofWord_of_isValid leftValid).symm⟩
  · left
    rw [if_neg descending, if_neg descending]
    exact ⟨not_lt.mp descending, (eq_ofWord_of_isValid leftValid).symm,
      (eq_ofWord_of_isValid rightValid).symm⟩

theorem add_exchanged (left right : SafeInt kind) : left + right = right + left := by
  have sums : left.stored.add? right.stored = right.stored.add? left.stored := by
    rw [Word.add?, Word.add?, Int.add_comm]
  change lift Word.add? left right = lift Word.add? right left
  rw [lift, lift, sums, Bool.or_comm left.poisoned]

theorem le_values_iff {left right : SafeInt kind} :
    (Comparison.values left right).le = true ↔ left.stored.toInt ≤ right.stored.toInt :=
  Test.le.outcome_iff_sides (.values left right)

/-- Of two values one is the smaller and one the greater.  Both were chosen among the two, and
together they add up to the same, be it poisoned or not. -/
structure Selects (left right smaller greater : SafeInt kind) : Prop where
  smallerChosen : smaller = left ∨ smaller = right
  greaterChosen : greater = left ∨ greater = right
  below : ∀ operand ∈ [left, right], (Comparison.values smaller operand).le = true
  above : ∀ operand ∈ [left, right], (Comparison.values operand greater).le = true
  sum : smaller + greater = left + right

theorem selects_of_isValid {left right : SafeInt kind} (leftValid : left.isValid = true)
    (rightValid : right.isValid = true) :
    Selects left right (left.smaller right) (left.greater right) := by
  rcases smaller_greater_cases leftValid rightValid with
    ⟨ascending, smallerSame, greaterSame⟩ | ⟨descending, smallerSame, greaterSame⟩
  · rw [smallerSame, greaterSame]
    exact {
      smallerChosen := .inl rfl
      greaterChosen := .inr rfl
      below := by simp [le_values_iff, ascending]
      above := by simp [le_values_iff, ascending]
      sum := rfl }
  · rw [smallerSame, greaterSame]
    exact {
      smallerChosen := .inr rfl
      greaterChosen := .inl rfl
      below := by simp [le_values_iff, descending]
      above := by simp [le_values_iff, descending]
      sum := add_exchanged right left }

/-! ## The order -/

/-- Every comparison, in every form, is that of the ranks of its sides, so exchanging the sides
mirrors it.  Chains of tests hold from end to end, whatever the forms of their links.  Values are
equal exactly if their hash keys are.  The smaller and the greater of two valid values are bounds
chosen among them, with the sum of the two, be it poisoned or not. -/
theorem comparisons_form_one_order (kind : IntKind) :
    (∀ (left right : Side kind) (comparison : Comparison kind),
      left.against? right = some comparison →
        comparison.order = compare left.rank right.rank ∧
        (∀ test : Test, test.outcome comparison = true ↔ test.Holds left.rank right.rank) ∧
        ∃ mirrored, right.against? left = some mirrored ∧
          mirrored.order = comparison.order.swap ∧
          ∀ test : Test, test.mirror.outcome mirrored = test.outcome comparison) ∧
    (∀ (test : Test) (left right : Side kind), Chain test left right →
      test.Holds left.rank right.rank ∧
        ∀ comparison, left.against? right = some comparison → test.outcome comparison = true) ∧
    (∀ left right : SafeInt kind,
      (Comparison.values left right).eq = true ↔ left.hashKey = right.hashKey) ∧
    ∀ left right : SafeInt kind, left.isValid = true → right.isValid = true →
      Selects left right (left.smaller right) (left.greater right) := by
  refine ⟨?_, ?_, ?_, fun left right => selects_of_isValid⟩
  · intro left right comparison compared
    rcases Side.sides_against compared with ⟨leftRank, rightRank⟩
    have order : comparison.order = compare left.rank right.rank := by
      rw [Comparison.order, leftRank, rightRank]
    rcases Side.exists_against_swap compared with ⟨mirrored, exchanged⟩
    refine ⟨order, fun test => test.outcome_iff compared, mirrored, exchanged, ?_, ?_⟩
    · rcases Side.sides_against exchanged with ⟨mirroredLeft, mirroredRight⟩
      rw [order, Comparison.order, mirroredLeft, mirroredRight]
      exact Std.OrientedCmp.eq_swap
    · intro test
      rw [Bool.eq_iff_iff, Test.outcome_iff _ exchanged, Test.outcome_iff _ compared]
      exact test.holds_mirror_iff _ _
  · intro test left right chain
    exact ⟨chain.holds, fun comparison compared => (test.outcome_iff compared).mpr chain.holds⟩
  · intro left right
    exact Test.eq.outcome_iff_sides (.values left right)

/-- A poisoned value stands between minus three and the word five, at zero.  The sum of one hundred
with itself leaves its kind, and so does that of the smaller and the greater. -/
theorem one_order_through_poison :
    let low : SafeInt .i8 := ofWord ⟨-3, by decide⟩
    let five : Word .i8 := ⟨5, by decide⟩
    let hundred : SafeInt .i8 := ofWord ⟨100, by decide⟩
    ((Comparison.withWord low five).lt = true ∧ (Comparison.wordOnLeft five low).gt = true) ∧
      hundred.smaller hundred + hundred.greater hundred = failure .i8 := by
  intro low five hundred
  let start : Side .i8 := .value low (canonical_ofWord _)
  let lost : Side .i8 := .value (failure .i8) canonical_failure
  let safeFive : Side .i8 := .value (ofWord five) (canonical_ofWord _)
  have belowZero : Chain .lt start lost := .single rfl rfl
  have belowFive : Chain .lt start safeFive := by
    refine .longer belowZero rfl ?_ (show Test.compose? .lt .le = some .lt from rfl)
    rfl
  have chain : Chain .lt start (.word five) := by
    refine .longer belowFive rfl ?_ (show Test.compose? .lt .eq = some .lt from rfl)
    rfl
  rcases comparisons_form_one_order .i8 with ⟨agree, chains, -, selection⟩
  have less : (Comparison.withWord low five).lt = true :=
    (chains .lt start (.word five) chain).2 _ rfl
  rcases agree start (.word five) _ rfl with ⟨-, -, mirrored, exchanged, -, mirror⟩
  cases exchanged
  refine ⟨⟨less, (mirror .lt).trans less⟩, ?_⟩
  exact (selection hundred hundred rfl rfl).sum.trans (by decide)

end SafeInt
end Assurance
