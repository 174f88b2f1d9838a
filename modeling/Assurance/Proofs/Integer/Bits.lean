import Assurance.Integer.Word
import Mathlib.Data.Int.ModEq

namespace Assurance

/-!
# Words, residues and digits

A word is determined by its residue modulo the number of values of its kind, and
so by its two's-complement digits.  Taking the digits and wrapping are therefore
two views of the same residue.  The digits of an unsigned word, read as a natural
number, are the word; those of a signed word are it when they are read with a
sign.

Shifts move digits.  A shift to lower digits never leaves the range of the kind,
so nothing has to be wrapped there.
-/

namespace IntKind

theorem modulus_eq (kind : IntKind) : kind.modulus = 2 ^ kind.bits :=
  Int.natCast_pow 2 kind.bits

theorem bits_lt (kind : IntKind) : kind.bits < UInt32.size := by
  cases kind <;> decide

/-- Dividing by a positive integer and taking the floor stays in the range of a kind. -/
theorem inRange_ediv {kind : IntKind} {value divisor : Int} (inside : kind.InRange value)
    (positive : 0 < divisor) : kind.InRange (value / divisor) := by
  have low := kind.min_le_zero
  have high := kind.one_le_max
  rcases inside with ⟨lower, upper⟩
  by_cases negative : value < 0
  · have below : value / divisor < 0 := Int.ediv_neg_of_neg_of_pos negative positive
    have above : value ≤ value / divisor := by
      rw [Int.le_ediv_iff_mul_le positive]
      have scaled : value * divisor ≤ value * 1 :=
        Int.mul_le_mul_of_nonpos_left (Int.le_of_lt negative) positive
      rwa [Int.mul_one] at scaled
    exact ⟨by omega, by omega⟩
  · have above : 0 ≤ value / divisor := Int.ediv_nonneg (by omega) (by omega)
    have below : value / divisor ≤ value := Int.ediv_le_self divisor (by omega)
    exact ⟨by omega, by omega⟩

end IntKind

namespace Word

variable {kind : IntKind}

theorem toInt_wrap_modEq (kind : IntKind) (value : Int) :
    (wrap kind value).toInt ≡ value [ZMOD kind.modulus] :=
  toInt_wrap_emod kind value

/-- A word is the only one of its kind with its residue. -/
theorem eq_of_modEq {first second : Word kind}
    (same : first.toInt ≡ second.toInt [ZMOD kind.modulus]) : first = second := by
  have whole := kind.max_eq_min_add
  rcases first.inRange with ⟨firstLow, firstHigh⟩
  rcases second.inRange with ⟨secondLow, secondHigh⟩
  -- Counted from the least value, both are their own residues.
  have shifted : (first.toInt - kind.min) % kind.modulus =
      (second.toInt - kind.min) % kind.modulus := same.sub_right kind.min
  rw [Int.emod_eq_of_lt (by omega) (by omega), Int.emod_eq_of_lt (by omega) (by omega)] at shifted
  exact ext (by omega)

theorem wrap_eq_iff {value : Int} {word : Word kind} :
    wrap kind value = word ↔ word.toInt ≡ value [ZMOD kind.modulus] := by
  constructor
  · rintro rfl
    exact toInt_wrap_modEq kind value
  · intro same
    exact eq_of_modEq ((toInt_wrap_modEq kind value).trans same.symm)

theorem ofInt_eq_of_modEq {first second : Int} (same : first ≡ second [ZMOD kind.modulus]) :
    BitVec.ofInt kind.bits first = BitVec.ofInt kind.bits second := by
  apply BitVec.eq_of_toNat_eq
  rw [BitVec.toNat_ofInt, BitVec.toNat_ofInt]
  exact congrArg Int.toNat same.eq

theorem toBits_wrap (kind : IntKind) (value : Int) :
    (wrap kind value).toBits = BitVec.ofInt kind.bits value :=
  ofInt_eq_of_modEq (toInt_wrap_modEq kind value)

/-- The digits of an unsigned word are those of its value. -/
theorem toNat_toBits {word : Word kind} (unsigned : kind.signed = false) :
    (word.toBits.toNat : Int) = word.toInt := by
  rcases word.inRange with ⟨lower, upper⟩
  have low := IntKind.min_eq_zero_of_unsigned unsigned
  have whole := kind.max_eq_min_add
  have own : word.toInt % kind.modulus = word.toInt := Int.emod_eq_of_lt (by omega) (by omega)
  rw [toBits, BitVec.toNat_ofInt]
  change ((word.toInt % kind.modulus).toNat : Int) = word.toInt
  rw [own]
  exact Int.toNat_of_nonneg (by omega)

/-- The digits of a signed word, read with a sign, are its value. -/
theorem toInt_toBits {word : Word kind} (signed : kind.signed = true) :
    word.toBits.toInt = word.toInt := by
  rcases word.inRange with ⟨lower, upper⟩
  simp only [IntKind.min, IntKind.max, signed, if_true] at lower upper
  apply BitVec.toInt_ofInt_eq_self kind.bits_pos
  · exact_mod_cast lower
  · have := Int.lt_of_le_sub_one upper
    exact_mod_cast this

end Word

end Assurance
