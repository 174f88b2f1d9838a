import Assurance.Proofs.Integer.Bits
import Assurance.SafeInt.Step
import Mathlib.Data.Rat.Floor

namespace Assurance

/-!
# Shifts by amounts of any kind

The amount of a shift has a kind of its own.  It passes two tests: it must be a
count below 2³², and then a count below the width of what is shifted.  The width
of every kind is far below 2³², so together the tests say only that the amount,
as an integer, is not negative and below that width.

Within the width a shift to higher digits multiplies by a power of two and wraps,
and a shift to lower digits divides by it and takes the floor.  On the digits
both are the shifts of bit vectors, where the one to lower digits repeats the
sign of a signed word.

Main statement: `SafeInt.shift_exact`.
-/

namespace Word

variable {kind : IntKind}

theorem shiftAmount?_eq_some_iff {word : Word kind} {count : Nat} :
    word.shiftAmount? = some count ↔ word.toInt = count ∧ count < UInt32.size := by
  unfold shiftAmount?
  split
  · rename_i inside
    rw [Option.some.injEq]
    omega
  · rename_i outside
    constructor
    · intro same
      cases same
    · rintro ⟨same, small⟩
      exact absurd ⟨by omega, by omega⟩ outside

/-- The word that a shift to higher digits gives within the width. -/
def shiftedLeft (word : Word kind) (count : Nat) : Word kind :=
  wrap kind (word.toInt * 2 ^ count)

/-- The word that a shift to lower digits gives within the width. -/
def shiftedRight (word : Word kind) (count : Nat) : Word kind :=
  ⟨word.toInt / 2 ^ count, IntKind.inRange_ediv word.inRange (Int.pow_pos (by decide))⟩

theorem shiftLeft?_eq (word : Word kind) (count : Nat) :
    word.shiftLeft? count = if count < kind.bits then some (word.shiftedLeft count) else none := by
  unfold shiftLeft? shiftedLeft
  rw [show ((Nat.pow 2 count : Nat) : Int) = 2 ^ count from Int.natCast_pow 2 count]

/-- The floor of a quotient is in range, so wrapping it changes nothing. -/
theorem shiftRight?_eq (word : Word kind) (count : Nat) :
    word.shiftRight? count = if count < kind.bits then some (word.shiftedRight count) else none := by
  have whole : wrap kind (word.toInt / ((Nat.pow 2 count : Nat) : Int)) =
      word.shiftedRight count := by
    rw [show ((Nat.pow 2 count : Nat) : Int) = 2 ^ count from Int.natCast_pow 2 count]
    exact ext (toInt_wrap_of_inRange (word.shiftedRight count).inRange)
  unfold shiftRight?
  rw [whole]

theorem toInt_shiftedRight (word : Word kind) (count : Nat) :
    (word.shiftedRight count).toInt = ⌊(word.toInt : ℚ) / 2 ^ count⌋ := by
  have floor := Rat.floor_intCast_div_natCast word.toInt (2 ^ count)
  push_cast at floor
  exact floor.symm

theorem toBits_shiftedLeft (word : Word kind) (count : Nat) :
    (word.shiftedLeft count).toBits = word.toBits <<< count := by
  have power : BitVec.ofInt kind.bits (2 ^ count) = BitVec.twoPow kind.bits count := by
    apply BitVec.eq_of_toNat_eq
    rw [BitVec.toNat_twoPow, ← BitVec.toNat_ofNat, ← BitVec.ofInt_natCast]
    push_cast
    rfl
  rw [shiftedLeft, toBits_wrap, BitVec.ofInt_mul, power, BitVec.shiftLeft_eq_mul_twoPow]
  rfl

theorem toBits_shiftedRight (word : Word kind) (count : Nat) :
    (word.shiftedRight count).toBits =
      if kind.signed then word.toBits.sshiftRight count else word.toBits >>> count := by
  cases signed : kind.signed with
  | true =>
      rw [if_pos rfl]
      apply BitVec.eq_of_toInt_eq
      rw [toInt_toBits signed, BitVec.toInt_sshiftRight, toInt_toBits signed,
        Int.shiftRight_eq_div_pow]
      push_cast
      rfl
  | false =>
      rw [if_neg Bool.false_ne_true]
      apply BitVec.eq_of_toNat_eq
      rw [BitVec.toNat_ushiftRight, Nat.shiftRight_eq_div_pow]
      apply Int.natCast_inj.mp
      rw [toNat_toBits signed]
      push_cast
      rw [toNat_toBits signed]
      rfl

end Word

namespace SafeInt

variable {kind amountKind : IntKind}

/-- What a shift within the width does to a word. -/
def Shift.shifted : Shift → Word kind → Nat → Word kind
  | left => Word.shiftedLeft
  | right => Word.shiftedRight

theorem Shift.onWord_eq (direction : Shift) (word : Word kind) (count : Nat) :
    direction.onWord word count =
      if count < kind.bits then some (direction.shifted word count) else none := by
  cases direction with
  | left => exact word.shiftLeft?_eq count
  | right => exact word.shiftRight?_eq count

/-- A shift is defined exactly for valid operands whose amount is below the width. -/
theorem Shift.checked_apply_eq_some_iff (direction : Shift) (value : SafeInt kind)
    (amount : SafeInt amountKind) (result : Word kind) :
    (direction.apply value amount).checked = some result ↔
      value.isValid = true ∧ amount.isValid = true ∧
        ∃ count : Nat, amount.stored.toInt = count ∧ count < kind.bits ∧
          direction.shifted value.stored count = result := by
  rw [checked_shift]
  constructor
  · intro defined
    rcases Option.bind_eq_some_iff.mp defined with ⟨word, read, applied⟩
    rcases Option.bind_eq_some_iff.mp applied with ⟨digits, amountRead, counted⟩
    rcases Option.bind_eq_some_iff.mp counted with ⟨count, isCount, moved⟩
    rcases checked_eq_some_iff.mp read with ⟨valid, rfl⟩
    rcases checked_eq_some_iff.mp amountRead with ⟨amountValid, rfl⟩
    rw [onWord_eq, Option.ite_none_right_eq_some, Option.some.injEq] at moved
    exact ⟨valid, amountValid, count, (Word.shiftAmount?_eq_some_iff.mp isCount).1, moved⟩
  · rintro ⟨valid, amountValid, count, same, below, rfl⟩
    have width := kind.bits_lt
    have isCount : amount.stored.shiftAmount? = some count :=
      Word.shiftAmount?_eq_some_iff.mpr ⟨same, by omega⟩
    rw [checked_eq_some_iff.mpr ⟨valid, rfl⟩, checked_eq_some_iff.mpr ⟨amountValid, rfl⟩]
    simp only [Option.bind_some, isCount, onWord_eq, if_pos below]

theorem Shift.isValid_apply_iff (direction : Shift) (value : SafeInt kind)
    (amount : SafeInt amountKind) :
    (direction.apply value amount).isValid = true ↔
      value.isValid = true ∧ amount.isValid = true ∧
        0 ≤ amount.stored.toInt ∧ amount.stored.toInt < kind.bits := by
  constructor
  · intro valid
    have read := checked_eq_some_iff.mpr ⟨valid, rfl⟩
    rcases (direction.checked_apply_eq_some_iff value amount _).mp read with
      ⟨valueValid, amountValid, count, same, below, _⟩
    exact ⟨valueValid, amountValid, by omega, by omega⟩
  · rintro ⟨valid, amountValid, low, high⟩
    have read := (direction.checked_apply_eq_some_iff value amount _).mpr
      ⟨valid, amountValid, amount.stored.toInt.toNat, by omega, by omega, rfl⟩
    exact (checked_eq_some_iff.mp read).1

theorem Shift.stored_apply {direction : Shift} {value : SafeInt kind} {amount : SafeInt amountKind}
    (valid : (direction.apply value amount).isValid = true) {count : Nat}
    (same : amount.stored.toInt = count) :
    (direction.apply value amount).stored = direction.shifted value.stored count := by
  have read := checked_eq_some_iff.mpr ⟨valid, rfl⟩
  rcases (direction.checked_apply_eq_some_iff value amount _).mp read with
    ⟨_, _, other, otherSame, _, moved⟩
  have counts : other = count := by omega
  rw [← moved, counts]

/-- A shift, written as an operator or as an assignment, is valid exactly if both operands are and
the amount, as an integer of whatever kind and size, is not negative and below the width of the
shifted kind.  A valid shift to higher digits is the only word with the residue of the product with
a power of two, and a valid shift to lower digits is the floor of the quotient.  In digits these are
the logical shift to higher digits, and to lower digits the arithmetic shift of signed words and the
logical shift of unsigned ones. -/
theorem shift_exact (value : SafeInt kind) (amount : SafeInt amountKind) :
    (∀ direction : Shift,
      (Step.shift direction amount).run value = .ok ⟨kind, direction.apply value amount⟩ ∧
      ((direction.apply value amount).isValid = true ↔
        value.isValid = true ∧ amount.isValid = true ∧
          0 ≤ amount.stored.toInt ∧ amount.stored.toInt < kind.bits)) ∧
    ∀ count : Nat, value.isValid = true → amount.isValid = true →
      amount.stored.toInt = count → count < kind.bits →
        let left := (Shift.left.apply value amount).stored
        let right := (Shift.right.apply value amount).stored
        (∀ word : Word kind,
          left = word ↔ word.toInt ≡ value.stored.toInt * 2 ^ count [ZMOD 2 ^ kind.bits]) ∧
        right.toInt = ⌊(value.stored.toInt : ℚ) / 2 ^ count⌋ ∧
        left.toBits = value.stored.toBits <<< count ∧
        right.toBits =
          if kind.signed then value.stored.toBits.sshiftRight count
          else value.stored.toBits >>> count := by
  constructor
  · intro direction
    exact ⟨rfl, direction.isValid_apply_iff value amount⟩
  · intro count valid amountValid same below left right
    have defined : ∀ direction : Shift, (direction.apply value amount).isValid = true := by
      intro direction
      exact (direction.isValid_apply_iff value amount).mpr
        ⟨valid, amountValid, by omega, by omega⟩
    have leftShifted : left = value.stored.shiftedLeft count :=
      Shift.stored_apply (defined .left) same
    have rightShifted : right = value.stored.shiftedRight count :=
      Shift.stored_apply (defined .right) same
    rw [leftShifted, rightShifted]
    refine ⟨?_, ?_, ?_, ?_⟩
    · intro word
      rw [← kind.modulus_eq]
      exact Word.wrap_eq_iff
    · exact value.stored.toInt_shiftedRight count
    · exact value.stored.toBits_shiftedLeft count
    · exact value.stored.toBits_shiftedRight count

/-- Minus seventy-seven of eight digits, shifted by a 128-bit three: the digit that leaves on the
left is lost, and the sign is repeated on the right. -/
theorem shift_exact_narrow_by_wide :
    let value : SafeInt .i8 := ofWord ⟨-77, by decide⟩
    let amount : SafeInt .u128 := ofWord ⟨3, by decide⟩
    (Shift.left.apply value amount).stored.toInt = -104 ∧
      (Shift.right.apply value amount).stored.toInt = -10 := by
  intro value amount
  have settled := (shift_exact value amount).2 3 rfl rfl rfl (by decide)
  constructor
  · rw [(settled.1 ⟨-104, by decide⟩).mpr (by decide)]
  · rw [settled.2.1, Int.floor_eq_iff]
    norm_num [value, ofWord]

end SafeInt

end Assurance
