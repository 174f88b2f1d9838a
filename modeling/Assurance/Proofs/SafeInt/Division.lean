import Assurance.Proofs.Integer.Checked
import Assurance.SafeInt.Arithmetic

namespace Assurance

/-!
# Quotient and remainder

The quotient and the remainder of two values are separate operations, but they
belong together.  They are poisoned at the same operands: a remainder is
undefined where the quotient is, also for the least value and minus one, where
the integer remainder would be zero.

Where they are valid, the dividend can be put together again from them.  The
remainder and the product of quotient and divisor both lie between zero and the
dividend, so no step on the way leaves the range, not even at its ends.

Main statement: `SafeInt.division_reconstructs`.
-/

/-- The integers between zero and a given one, on whichever side of zero it lies. -/
def TowardZero (part whole : Int) : Prop :=
  (0 ≤ part ∧ part ≤ whole) ∨ (whole ≤ part ∧ part ≤ 0)

theorem IntKind.inRange_of_towardZero {kind : IntKind} {part whole : Int}
    (inside : kind.InRange whole) (between : TowardZero part whole) : kind.InRange part := by
  have low := kind.min_le_zero
  have high := kind.one_le_max
  rcases inside with ⟨lower, upper⟩
  rcases between with ⟨nonneg, below⟩ | ⟨above, nonpos⟩
  · exact ⟨by omega, by omega⟩
  · exact ⟨by omega, by omega⟩

theorem towardZero_tmod (dividend divisor : Int) :
    TowardZero (dividend.tmod divisor) dividend := by
  have size := Int.natAbs_tmod dividend divisor
  have small := Nat.mod_le dividend.natAbs divisor.natAbs
  rcases Int.le_total 0 dividend with nonneg | nonpos
  · have sign := Int.tmod_nonneg divisor nonneg
    exact Or.inl ⟨by omega, by omega⟩
  · have sign := Int.tmod_nonneg divisor (Int.neg_nonneg_of_nonpos nonpos)
    rw [Int.neg_tmod] at sign
    exact Or.inr ⟨by omega, by omega⟩

/-- The dividend without its remainder also lies between zero and the dividend. -/
theorem towardZero_tdiv_mul (dividend divisor : Int) :
    TowardZero (dividend.tdiv divisor * divisor) dividend := by
  have whole := Int.tdiv_mul_add_tmod dividend divisor
  rcases towardZero_tmod dividend divisor with ⟨nonneg, below⟩ | ⟨above, nonpos⟩
  · exact Or.inl ⟨by omega, by omega⟩
  · exact Or.inr ⟨by omega, by omega⟩

theorem tmod_eq_zero_or_sign (dividend divisor : Int) :
    dividend.tmod divisor = 0 ∨ (dividend.tmod divisor).sign = dividend.sign := by
  rw [Int.sign_tmod]
  split
  · rename_i divides
    exact Or.inl (Int.tmod_eq_zero_of_dvd divides)
  · exact Or.inr rfl

theorem natAbs_tmod_lt (dividend : Int) {divisor : Int} (nonzero : divisor ≠ 0) :
    (dividend.tmod divisor).natAbs < divisor.natAbs := by
  rw [Int.natAbs_tmod]
  exact Nat.mod_lt _ (Int.natAbs_pos.mpr nonzero)

/-- A remainder is defined where the quotient is: it is never out of range itself. -/
theorem Word.exists_rem?_iff {kind : IntKind} {left right : Word kind} :
    (∃ word, rem? left right = some word) ↔
      right.toInt ≠ 0 ∧ ¬ DivisionOverflows left right := by
  constructor
  · rintro ⟨word, defined⟩
    exact (rem?_eq_some_iff.mp defined).1
  · intro regular
    have inside := IntKind.inRange_of_towardZero left.inRange
      (towardZero_tmod left.toInt right.toInt)
    exact ⟨⟨_, inside⟩, rem?_eq_some_iff.mpr ⟨regular, rfl⟩⟩

namespace SafeInt

variable {kind : IntKind} {left right : SafeInt kind}

theorem isValid_div_iff :
    (left / right).isValid = true ↔
      (left.isValid = true ∧ right.isValid = true) ∧
        right.stored.toInt ≠ 0 ∧ ¬ Word.DivisionOverflows left.stored right.stored :=
  isValid_lift_iff.trans (and_congr_right fun _ => Word.exists_div?_iff)

theorem isValid_rem_iff :
    (left % right).isValid = true ↔
      (left.isValid = true ∧ right.isValid = true) ∧
        right.stored.toInt ≠ 0 ∧ ¬ Word.DivisionOverflows left.stored right.stored :=
  isValid_lift_iff.trans (and_congr_right fun _ => Word.exists_rem?_iff)

theorem stored_div (valid : (left / right).isValid = true) :
    (left / right).stored.toInt = left.stored.toInt.tdiv right.stored.toInt :=
  (Word.div?_eq_some_iff.mp (eq_some_stored_lift valid)).2

theorem stored_rem (valid : (left % right).isValid = true) :
    (left % right).stored.toInt = left.stored.toInt.tmod right.stored.toInt :=
  (Word.rem?_eq_some_iff.mp (eq_some_stored_lift valid)).2

theorem isValid_div_mul (valid : (left / right).isValid = true) :
    (left / right * right).isValid = true := by
  rcases isValid_div_iff.mp valid with ⟨⟨-, rightValid⟩, -⟩
  rw [isValid_mul_iff, stored_div valid]
  exact ⟨⟨valid, rightValid⟩,
    IntKind.inRange_of_towardZero left.stored.inRange (towardZero_tdiv_mul _ _)⟩

/-- Quotient times divisor, plus the remainder, is the dividend, and no step on the way is
poisoned. -/
theorem div_mul_add_rem (valid : (left / right).isValid = true) :
    (left / right * right + left % right).isValid = true ∧
      left / right * right + left % right = left := by
  have regular := isValid_div_iff.mp valid
  have remValid := isValid_rem_iff.mpr regular
  have productValid := isValid_div_mul valid
  have whole : (left / right * right).stored.toInt + (left % right).stored.toInt =
      left.stored.toInt := by
    rw [stored_mul productValid, stored_div valid, stored_rem remValid]
    exact Int.tdiv_mul_add_tmod _ _
  have sumValid : (left / right * right + left % right).isValid = true := by
    rw [isValid_add_iff, whole]
    exact ⟨⟨productValid, remValid⟩, left.stored.inRange⟩
  refine ⟨sumValid, ?_⟩
  rw [eq_ofWord_of_isValid sumValid, Word.ext ((stored_add sumValid).trans whole),
    ← eq_ofWord_of_isValid regular.1.1]

/-- Quotient and remainder are poisoned together: by a poisoned operand, a zero divisor, or the
least value of a signed kind and minus one.  Elsewhere the dividend is put together from them
without poison on the way, and the remainder is zero or has the sign of the dividend, and is
smaller than the divisor. -/
theorem division_reconstructs (left right : SafeInt kind) :
    ((left / right).isValid = true ↔
      (left.isValid = true ∧ right.isValid = true) ∧
        right.stored.toInt ≠ 0 ∧ ¬ Word.DivisionOverflows left.stored right.stored) ∧
    (left / right).poisoned = (left % right).poisoned ∧
    ((left / right).isValid = true →
      (left / right * right).isValid = true ∧
      (left / right * right + left % right).isValid = true ∧
      left / right * right + left % right = left ∧
      ((left % right).stored.toInt = 0 ∨
        (left % right).stored.toInt.sign = left.stored.toInt.sign) ∧
      (left % right).stored.toInt.natAbs < right.stored.toInt.natAbs) := by
  have together : (left / right).isValid = (left % right).isValid :=
    Bool.eq_iff_iff.mpr (isValid_div_iff.trans isValid_rem_iff.symm)
  refine ⟨isValid_div_iff, Bool.not_inj together, ?_⟩
  intro valid
  rcases div_mul_add_rem valid with ⟨sumValid, whole⟩
  rw [stored_rem (together ▸ valid)]
  exact ⟨isValid_div_mul valid, sumValid, whole, tmod_eq_zero_or_sign _ _,
    natAbs_tmod_lt _ (isValid_div_iff.mp valid).2.1⟩

/-- The least value by seven: the product of quotient and divisor is two above the least value, and
the remainder takes it back to the end of the range. -/
theorem division_reconstructs_minimum :
    let seven : SafeInt .i8 := ofWord ⟨7, by decide⟩
    (minimum .i8 / seven * seven).stored.toInt = -126 ∧
      (minimum .i8 % seven).stored.toInt = -2 ∧
      minimum .i8 / seven * seven + minimum .i8 % seven = minimum .i8 := by
  intro seven
  have settled := (division_reconstructs (minimum .i8) seven).2.2 (by decide)
  exact ⟨by decide, by decide, settled.2.2.1⟩

end SafeInt

end Assurance
