import Assurance.SafeInt.Fold
import Mathlib.Algebra.BigOperators.Group.List.Basic
import Mathlib.Algebra.Ring.Int.Defs
import Mathlib.Data.List.Induction

namespace Assurance
namespace SafeInt

/-!
# Sums and products of lists

A sum or a product goes through its list from left to right, so its
intermediate results are the totals of the prefixes of the list.  Every one of
them has to be in range.  The total of the whole list says too little: what
leaves the range is poisoned, and neither a zero nor a compensating negative
value that comes later repairs it.

The totals are computed in integers without bounds.  A list can be handed over
by value or by reference, which makes no difference.

Main statement: `SafeInt.reduction_exact`.
-/

variable {kind : IntKind}

/-- The ways to reduce a list of values to one value. -/
inductive Reduction where
  | sum | product
deriving DecidableEq, Repr

/-- A list as it is handed over: the values themselves, or references to them. -/
inductive Handed (kind : IntKind) where
  | values (list : List (SafeInt kind))
  | references (list : List (Shared kind))

def Handed.items : Handed kind → List (SafeInt kind)
  | values list => list
  | references list => copied list

namespace Reduction

def run : Reduction → Handed kind → SafeInt kind
  | sum, .values list => SafeInt.sum list
  | sum, .references list => SafeInt.sumShared list
  | product, .values list => SafeInt.product list
  | product, .references list => SafeInt.productShared list

/-- The operator that a reduction puts between two values. -/
def join : Reduction → SafeInt kind → SafeInt kind → SafeInt kind
  | sum => fun left right => left + right
  | product => fun left right => left * right

/-- What the empty list is reduced to. -/
def unit (kind : IntKind) : Reduction → Word kind
  | sum => Word.zero kind
  | product => Word.one kind

def idealJoin : Reduction → Int → Int → Int
  | sum => fun left right => left + right
  | product => fun left right => left * right

/-- The total in integers without bounds, where a value counts as the integer that it stores. -/
def total : Reduction → List (SafeInt kind) → Int
  | sum, values => (values.map fun value => value.stored.toInt).sum
  | product, values => (values.map fun value => value.stored.toInt).prod

theorem run_eq_values (reduction : Reduction) (handed : Handed kind) :
    reduction.run handed = reduction.run (.values handed.items) := by
  cases reduction <;> cases handed <;> rfl

theorem run_nil (reduction : Reduction) :
    reduction.run (.values []) = ofWord (reduction.unit kind) := by
  cases reduction <;> rfl

theorem run_append_singleton (reduction : Reduction) (front : List (SafeInt kind))
    (last : SafeInt kind) :
    reduction.run (.values (front ++ [last])) =
      reduction.join (reduction.run (.values front)) last := by
  cases reduction <;> exact List.foldl_append

theorem canonical_join (reduction : Reduction) (left right : SafeInt kind) :
    (reduction.join left right).Canonical := by
  cases reduction <;> exact canonical_lift _ left right

theorem isValid_join_iff {reduction : Reduction} {left right : SafeInt kind} :
    (reduction.join left right).isValid = true ↔
      (left.isValid = true ∧ right.isValid = true) ∧
        kind.InRange (reduction.idealJoin left.stored.toInt right.stored.toInt) := by
  cases reduction with
  | sum => exact isValid_add_iff
  | product => exact isValid_mul_iff

theorem stored_join {reduction : Reduction} {left right : SafeInt kind}
    (valid : (reduction.join left right).isValid = true) :
    (reduction.join left right).stored.toInt =
      reduction.idealJoin left.stored.toInt right.stored.toInt := by
  cases reduction with
  | sum => exact stored_add valid
  | product => exact stored_mul valid

theorem total_nil (reduction : Reduction) :
    reduction.total ([] : List (SafeInt kind)) = (reduction.unit kind).toInt := by
  cases reduction <;> rfl

theorem total_singleton (reduction : Reduction) (value : SafeInt kind) :
    reduction.total [value] = value.stored.toInt := by
  cases reduction <;> simp [total]

theorem total_append (reduction : Reduction) (front later : List (SafeInt kind)) :
    reduction.total (front ++ later) =
      reduction.idealJoin (reduction.total front) (reduction.total later) := by
  cases reduction with
  | sum => simp only [total, idealJoin, List.map_append, List.sum_append_int]
  | product => simp only [total, idealJoin, List.map_append, List.prod_append_int]

/-- Nothing in the list stands in the way of a valid result. -/
structure StaysInRange (reduction : Reduction) (values : List (SafeInt kind)) : Prop where
  valid : ∀ value ∈ values, value.isValid = true
  inside : ∀ front, front <+: values → kind.InRange (reduction.total front)

theorem staysInRange_nil (reduction : Reduction) :
    reduction.StaysInRange ([] : List (SafeInt kind)) where
  valid := fun _ member => nomatch member
  inside := by
    intro front isFront
    rw [List.prefix_nil.mp isFront, total_nil]
    exact (reduction.unit kind).inRange

theorem staysInRange_append_singleton_iff {reduction : Reduction} {front : List (SafeInt kind)}
    {last : SafeInt kind} :
    reduction.StaysInRange (front ++ [last]) ↔
      reduction.StaysInRange front ∧ last.isValid = true ∧
        kind.InRange (reduction.total (front ++ [last])) := by
  constructor
  · rintro ⟨valid, inside⟩
    rcases List.forall_mem_append.mp valid with ⟨frontValid, lastValid⟩
    refine ⟨⟨frontValid, ?_⟩, lastValid last List.mem_cons_self, inside _ List.prefix_rfl⟩
    intro shorter isFront
    exact inside shorter (isFront.trans (List.prefix_append front [last]))
  · rintro ⟨⟨frontValid, frontInside⟩, lastValid, whole⟩
    refine ⟨List.forall_mem_append.mpr ⟨frontValid, ?_⟩, ?_⟩
    · intro value member
      rw [List.mem_singleton.mp member]
      exact lastValid
    · intro shorter isFront
      -- A prefix of the longer list is that list or a prefix of the shorter one.
      rcases List.prefix_concat_iff.mp isFront with same | earlier
      · rw [same]
        exact whole
      · exact frontInside shorter earlier

theorem stored_run {reduction : Reduction} {values : List (SafeInt kind)}
    (valid : (reduction.run (.values values)).isValid = true) :
    (reduction.run (.values values)).stored.toInt = reduction.total values := by
  induction values using List.reverseRecOn with
  | nil =>
      rw [run_nil, total_nil]
      rfl
  | append_singleton front last inductionHypothesis =>
      rw [run_append_singleton] at valid ⊢
      rcases isValid_join_iff.mp valid with ⟨⟨frontValid, -⟩, -⟩
      rw [stored_join valid, inductionHypothesis frontValid, total_append, total_singleton]

theorem isValid_run_iff (reduction : Reduction) (values : List (SafeInt kind)) :
    (reduction.run (.values values)).isValid = true ↔ reduction.StaysInRange values := by
  induction values using List.reverseRecOn with
  | nil =>
      rw [run_nil]
      exact ⟨fun _ => reduction.staysInRange_nil, fun _ => rfl⟩
  | append_singleton front last inductionHypothesis =>
      rw [run_append_singleton, isValid_join_iff, staysInRange_append_singleton_iff,
        total_append, total_singleton, ← inductionHypothesis, and_assoc]
      refine and_congr_right fun frontValid => ?_
      -- The values before the last one gave their total, so the range check of the last step is
      -- about the total of the whole list.
      rw [stored_run frontValid]

theorem canonical_run (reduction : Reduction) (values : List (SafeInt kind)) :
    (reduction.run (.values values)).Canonical := by
  induction values using List.reverseRecOn with
  | nil =>
      rw [run_nil]
      exact canonical_ofWord _
  | append_singleton front last _ =>
      rw [run_append_singleton]
      exact reduction.canonical_join _ last

end Reduction

/-- A sum or a product, by value or by reference, is valid exactly if every value of the list is
valid and the exact total of every prefix is in range; it is then the exact total of the list, and
zero or one if the list is empty.  A prefix whose total is out of range poisons the result,
whatever comes after it. -/
theorem reduction_exact (reduction : Reduction) (handed : Handed kind) :
    ((reduction.run handed).isValid = true ↔
      (∀ value ∈ handed.items, value.isValid = true) ∧
        ∀ front, front <+: handed.items → kind.InRange (reduction.total front)) ∧
    ((reduction.run handed).isValid = true →
      (reduction.run handed).stored.toInt = reduction.total handed.items) ∧
    (handed.items = [] → reduction.run handed = ofWord (reduction.unit kind)) ∧
    ∀ front later, handed.items = front ++ later → ¬ kind.InRange (reduction.total front) →
      reduction.run handed = failure kind := by
  rw [reduction.run_eq_values]
  have decided := reduction.isValid_run_iff handed.items
  refine ⟨?_, ?_, ?_, ?_⟩
  · rw [decided]
    exact ⟨fun stays => ⟨stays.valid, stays.inside⟩, fun both => ⟨both.1, both.2⟩⟩
  · exact Reduction.stored_run
  · intro empty
    rw [empty, reduction.run_nil]
  · intro front later split outside
    refine eq_failure_of_not_isValid (reduction.canonical_run _) ?_
    intro valid
    exact outside ((decided.mp valid).inside front (split ▸ List.prefix_append front later))

/-- One hundred twice exceeds the signed values of eight digits, and taking one hundred away again
does not help, although the total is in range; nor does a factor of zero behind two big ones. -/
theorem reduction_exact_past_the_range :
    let hundred : SafeInt .i8 := ofWord ⟨100, by decide⟩
    let minusHundred : SafeInt .i8 := ofWord ⟨-100, by decide⟩
    let added : Handed .i8 := .references [⟨hundred⟩, ⟨hundred⟩, ⟨minusHundred⟩]
    let multiplied : Handed .i8 := .values [hundred, hundred, SafeInt.zero .i8]
    (Reduction.sum.total added.items = 100 ∧ Reduction.sum.run added = failure .i8) ∧
      Reduction.product.total multiplied.items = 0 ∧
        Reduction.product.run multiplied = failure .i8 ∧
      (Reduction.sum.run (.values [hundred, minusHundred, hundred])).stored.toInt = 100 := by
  intro hundred minusHundred added multiplied
  have addedPoisoned := (reduction_exact .sum added).2.2.2 [hundred, hundred] [minusHundred] rfl
    (by decide)
  have multipliedPoisoned := (reduction_exact .product multiplied).2.2.2 [hundred, hundred]
    [SafeInt.zero .i8] rfl (by decide)
  have rearranged := (reduction_exact .sum (.values [hundred, minusHundred, hundred])).2.1
    (by decide)
  exact ⟨⟨by decide, addedPoisoned⟩, by decide, multipliedPoisoned, rearranged⟩

end SafeInt
end Assurance
