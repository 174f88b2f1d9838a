import Assurance.Proofs.SafeInt.Conversion
import Assurance.SafeInt.Fold

namespace Assurance

/-!
# The wide sum as an oracle

A sum of two 32-bit integers is compared with the sum of the same integers in 64
bits, where it cannot overflow, and with a test of the 32-bit limits.  Both the
width and the limits have to be right, or a comparison with the oracle would say
nothing.

The width is right because the checked 64-bit addition of the widened operands
never fails.  The limits are right because the test decides which 64-bit integers
can be narrowed.  The sum of safe integers is then the narrowed wide sum, poison
included.

Main statement: `SafeInt.wideSum_oracle`.
-/

variable {left right : Word .i32} {value : Word .i64}

theorem inRange_i64_of_i32 {integer : Int} (inside : IntKind.i32.InRange integer) :
    IntKind.i64.InRange integer := by
  have least : IntKind.i64.min ≤ IntKind.i32.min := by decide
  have greatest : IntKind.i32.max ≤ IntKind.i64.max := by decide
  exact ⟨Int.le_trans least inside.1, Int.le_trans inside.2 greatest⟩

theorem convert?_i64 (word : Word .i32) :
    word.convert? .i64 = some ⟨word.toInt, inRange_i64_of_i32 word.inRange⟩ :=
  Word.ofInt?_of_inRange (inRange_i64_of_i32 word.inRange)

/-- The widened operands can be added without leaving 64 bits, and give the wide sum. -/
theorem widened_add? (left right : Word .i32) :
    ((left.convert? .i64).bind fun first =>
      (right.convert? .i64).bind fun second => first.add? second) = some (wideSum left right) := by
  rw [convert?_i64, convert?_i64, Option.bind_some, Option.bind_some, Word.add?,
    Word.ofInt?_eq_some_iff]
  rfl

/-- The limits of the test are those of the 32-bit integers. -/
theorem fits32_eq_true_iff : fits32 value = true ↔ IntKind.i32.InRange value.toInt := by
  have least : IntKind.i32.min = -2147483648 := by decide
  have greatest : IntKind.i32.max = 2147483647 := by decide
  rw [fits32, decide_eq_true_iff, IntKind.InRange, least, greatest]

/-- An integer passes the test exactly if some 32-bit integer is equal to it. -/
theorem fits32_eq_true_iff_exists :
    fits32 value = true ↔ ∃ word : Word .i32, word.toInt = value.toInt := by
  rw [fits32_eq_true_iff, ← Word.exists_ofInt?_iff]
  exact exists_congr fun word => Word.ofInt?_eq_some_iff

namespace SafeInt

theorem isValid_narrowed_iff :
    ((ofWord value).convert .i32).isValid = true ↔ fits32 value = true := by
  rw [isValid_convert_iff, fits32_eq_true_iff]
  exact and_iff_right rfl

/-- The sum of safe integers is the wide sum of their words, narrowed. -/
theorem ofWord_add_ofWord (left right : Word .i32) :
    ofWord left + ofWord right = (ofWord (wideSum left right)).convert .i32 :=
  rfl

theorem poisoned_add_eq (left right : Word .i32) :
    (ofWord left + ofWord right).poisoned = !fits32 (wideSum left right) := by
  have valid : (ofWord left + ofWord right).isValid = fits32 (wideSum left right) := by
    rw [ofWord_add_ofWord, Bool.eq_iff_iff]
    exact isValid_narrowed_iff
  rw [← valid, isValid, Bool.not_not]

theorem checked_add_eq (left right : Word .i32) :
    (ofWord left + ofWord right).checked.map Word.toInt =
      if fits32 (wideSum left right) then some (wideSum left right).toInt else none := by
  by_cases fits : fits32 (wideSum left right) = true
  · have valid := isValid_narrowed_iff.mpr fits
    have kept : ((ofWord (wideSum left right)).convert .i32).stored.toInt =
        (wideSum left right).toInt := stored_convert valid
    rw [if_pos fits, ofWord_add_ofWord, eq_ofWord_of_isValid valid, checked_ofWord, Option.map_some,
      kept]
  · have poisoned : (ofWord left + ofWord right).poisoned = true := by
      rw [poisoned_add_eq, Bool.eq_false_iff.mpr fits, Bool.not_false]
    rw [if_neg fits, checked_eq_none_iff.mpr poisoned, Option.map_none]

/-- For all 32-bit operands the wide sum is their exact sum, and the checked 64-bit addition of the
widened operands arrives at it without failing.  The sum of the safe integers is poisoned exactly
if the wide sum does not pass the test of the limits, and stores zero then; otherwise it reads as
exactly the wide sum.  And a 64-bit integer passes the test exactly if it is a 32-bit integer, which
is also when its conversion to 32 bits is valid. -/
theorem wideSum_oracle :
    (∀ left right : Word .i32,
      (wideSum left right).toInt = left.toInt + right.toInt ∧
      ((left.convert? .i64).bind fun first =>
        (right.convert? .i64).bind fun second => first.add? second) =
          some (wideSum left right) ∧
      (ofWord left + ofWord right).poisoned = !fits32 (wideSum left right) ∧
      (ofWord left + ofWord right).checked.map Word.toInt =
        (if fits32 (wideSum left right) then some (wideSum left right).toInt else none) ∧
      (ofWord left + ofWord right).Canonical) ∧
    ∀ value : Word .i64,
      (fits32 value = true ↔ ∃ word : Word .i32, word.toInt = value.toInt) ∧
      (fits32 value = true ↔ ((ofWord value).convert .i32).isValid = true) := by
  constructor
  · intro left right
    have canonical : (ofWord left + ofWord right).Canonical := canonical_lift _ _ _
    exact ⟨rfl, widened_add? left right, poisoned_add_eq left right, checked_add_eq left right,
      canonical⟩
  · intro value
    exact ⟨fits32_eq_true_iff_exists, isValid_narrowed_iff.symm⟩

/-- One beyond the greatest 32-bit integer, and the least one itself. -/
example :
    fits32 (wideSum (Word.maximum .i32) (Word.one .i32)) = false ∧
      fits32 (wideSum (Word.minimum .i32) (Word.zero .i32)) = true := by
  decide

end SafeInt

end Assurance
