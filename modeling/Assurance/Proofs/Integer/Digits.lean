import Assurance.Proofs.Integer.Bits
import Mathlib.Data.Int.Bitwise

namespace Assurance

/-!
# Single digits of unsigned words

The bitwise operations treat every digit of a word on its own, so each of them
is described by what it does to one digit.  An unsigned word has no digit set at
its width or beyond, and the complement keeps that: it turns only the digits
below the width.

A sum carries from one digit to the next and is no such operation.  But what it
carries is decided by the number of ones at each position.  Two pairs of words
with the same number of ones at every position therefore have the same sum, and
this one fact connects the bitwise operations with addition.
-/

/-- The lowest digits of a number, taken one more at a time. -/
theorem mod_two_pow_succ_eq (value count : Nat) :
    value % 2 ^ (count + 1) = value % 2 ^ count + 2 ^ count * (value.testBit count).toNat := by
  rw [Nat.mod_pow_succ, Nat.toNat_testBit]

/-- The induction is on the number of digits.  The same number of ones at a position adds the same
multiple of a power of two to both sums, whatever is carried there. -/
theorem mod_two_pow_add_eq {first second third fourth count : Nat}
    (sameOnes : ∀ index < count,
      (first.testBit index).toNat + (second.testBit index).toNat =
        (third.testBit index).toNat + (fourth.testBit index).toNat) :
    first % 2 ^ count + second % 2 ^ count = third % 2 ^ count + fourth % 2 ^ count := by
  induction count with
  | zero => simp [Nat.mod_one]
  | succ count inductionHypothesis =>
      have below := inductionHypothesis fun index less => sameOnes index (by omega)
      have here := congrArg (2 ^ count * ·) (sameOnes count (by omega))
      simp only [Nat.mul_add] at here
      simp only [mod_two_pow_succ_eq]
      omega

/-- The operations that compute a digit from the two digits at its position. -/
inductive Gate where
  | and | or | xor
deriving DecidableEq, Repr

namespace Gate

def onDigits : Gate → Bool → Bool → Bool
  | and => Bool.and
  | or => Bool.or
  | xor => Bool.xor

def onWords {kind : IntKind} : Gate → Word kind → Word kind → Word kind
  | and => Word.and
  | or => Word.or
  | xor => Word.xor

end Gate

namespace Word

variable {kind : IntKind}

/-- Whether a digit is set, counted from the lowest one. -/
def digit (word : Word kind) (index : Nat) : Bool :=
  word.toInt.testBit index

theorem toBits_ofBits (digits : BitVec kind.bits) : (ofBits digits).toBits = digits := by
  rw [ofBits, toBits_wrap, BitVec.ofInt_natCast, BitVec.ofNat_toNat, BitVec.setWidth_eq]

theorem digit_zero (index : Nat) : (zero kind).digit index = false :=
  Nat.zero_testBit index

section Unsigned

variable (unsigned : kind.signed = false)

include unsigned

theorem digit_eq_testBit (word : Word kind) (index : Nat) :
    word.digit index = word.toBits.toNat.testBit index := by
  rw [digit, ← toNat_toBits unsigned]
  rfl

theorem digit_of_bits_le (word : Word kind) {index : Nat} (beyond : kind.bits ≤ index) :
    word.digit index = false := by
  rw [digit_eq_testBit unsigned]
  exact BitVec.getLsbD_of_ge word.toBits index beyond

theorem digit_ofBits (digits : BitVec kind.bits) (index : Nat) :
    (ofBits digits).digit index = digits.getLsbD index := by
  rw [digit_eq_testBit unsigned, toBits_ofBits]
  rfl

theorem digit_onWords (gate : Gate) (left right : Word kind) (index : Nat) :
    (gate.onWords left right).digit index =
      gate.onDigits (left.digit index) (right.digit index) := by
  rw [digit_eq_testBit unsigned left, digit_eq_testBit unsigned right]
  cases gate with
  | and =>
      change (ofBits (left.toBits &&& right.toBits)).digit index = _
      rw [digit_ofBits unsigned, BitVec.getLsbD_and]
      rfl
  | or =>
      change (ofBits (left.toBits ||| right.toBits)).digit index = _
      rw [digit_ofBits unsigned, BitVec.getLsbD_or]
      rfl
  | xor =>
      change (ofBits (left.toBits ^^^ right.toBits)).digit index = _
      rw [digit_ofBits unsigned, BitVec.getLsbD_xor]
      rfl

theorem digit_complement (word : Word kind) (index : Nat) :
    word.complement.digit index = (decide (index < kind.bits) && !word.digit index) := by
  rw [complement, digit_ofBits unsigned, BitVec.getLsbD_not, digit_eq_testBit unsigned]
  rfl

theorem digit_maximum (index : Nat) :
    (maximum kind).digit index = decide (index < kind.bits) := by
  have greatest : kind.max = ((2 ^ kind.bits - 1 : Nat) : Int) := by
    have positive := Nat.two_pow_pos kind.bits
    simp only [IntKind.max, unsigned, Bool.false_eq_true, if_false]
    change ((2 ^ kind.bits : Nat) : Int) - 1 = _
    omega
  change kind.max.testBit index = _
  rw [greatest]
  exact Nat.testBit_two_pow_sub_one kind.bits index

theorem toInt_add_eq {first second third fourth : Word kind}
    (sameOnes : ∀ index,
      (first.digit index).toNat + (second.digit index).toNat =
        (third.digit index).toNat + (fourth.digit index).toNat) :
    first.toInt + second.toInt = third.toInt + fourth.toInt := by
  have onNumbers : first.toBits.toNat + second.toBits.toNat =
      third.toBits.toNat + fourth.toBits.toNat := by
    simp only [digit_eq_testBit unsigned] at sameOnes
    have lowDigits := mod_two_pow_add_eq fun index (_ : index < kind.bits) => sameOnes index
    simpa only [Nat.mod_eq_of_lt (BitVec.isLt _)] using lowDigits
  simp only [← toNat_toBits unsigned]
  exact_mod_cast onNumbers

theorem toInt_and_add_or (left right : Word kind) :
    (left.and right).toInt + (left.or right).toInt = left.toInt + right.toInt := by
  apply toInt_add_eq unsigned
  intro index
  have both := digit_onWords unsigned .and left right index
  have either := digit_onWords unsigned .or left right index
  simp only [Gate.onWords, Gate.onDigits] at both either
  rw [both, either]
  cases left.digit index <;> cases right.digit index <;> rfl

/-- The digits that both words have set, and those that only one has, make up the digits that some
word has set. -/
theorem toInt_and_add_xor (left right : Word kind) :
    (left.and right).toInt + (left.xor right).toInt = (left.or right).toInt := by
  have withZero : (left.and right).toInt + (left.xor right).toInt =
      (left.or right).toInt + (zero kind).toInt := by
    apply toInt_add_eq unsigned
    intro index
    have both := digit_onWords unsigned .and left right index
    have either := digit_onWords unsigned .or left right index
    have one := digit_onWords unsigned .xor left right index
    simp only [Gate.onWords, Gate.onDigits] at both either one
    rw [both, either, one, digit_zero]
    cases left.digit index <;> cases right.digit index <;> rfl
  exact withZero.trans (Int.add_zero _)

theorem toInt_add_complement (word : Word kind) :
    word.toInt + word.complement.toInt = kind.max := by
  have withZero : word.toInt + word.complement.toInt =
      (maximum kind).toInt + (zero kind).toInt := by
    apply toInt_add_eq unsigned
    intro index
    rw [digit_complement unsigned, digit_maximum unsigned, digit_zero]
    by_cases below : index < kind.bits
    · rw [decide_eq_true below]
      cases word.digit index <;> rfl
    · rw [decide_eq_false below, digit_of_bits_le unsigned word (by omega)]
      rfl
  exact withZero.trans (Int.add_zero _)

end Unsigned

end Word

end Assurance
