import Assurance.Proofs.Integer.Digits
import Assurance.Proofs.SafeInt.OperandForm

namespace Assurance

/-!
# Bitwise expressions

An expression of gates and complements over unsigned values cannot fail.  Only a
poisoned leaf poisons it, and it does so wherever it stands, even beside a word
that would settle every digit.  Otherwise each digit of the result is what the
expression computes from the digits of its leaves at the same position.

Arithmetic sees the same digits.  What two values have in common and what they
have together add up to their sum; the difference of the two is what only one of
the values has; and a complement is what is missing to the greatest value.  In
each of these laws both sides are poisoned at the same operands.

Main statements: `SafeInt.BitTerm.eval_digitwise` and
`SafeInt.bitwise_agrees_with_arithmetic`.
-/

namespace Gate

def operator : Gate → SafeInt.Operator
  | and => .and
  | or => .or
  | xor => .xor

theorem onWords_operator {kind : IntKind} (gate : Gate) (left right : Word kind) :
    gate.operator.onWords left right = some (gate.onWords left right) := by
  cases gate <;> rfl

end Gate

namespace SafeInt

variable {kind : IntKind}

theorem poisoned_apply_gate (gate : Gate) (left right : SafeInt kind) :
    (gate.operator.apply left right).poisoned = (left.poisoned || right.poisoned) := by
  unfold Operator.apply lift
  rw [gate.onWords_operator]
  cases left.poisoned <;> cases right.poisoned <;> rfl

/-- A gate gives a word for any two words, so valid operands are all it needs. -/
theorem isValid_apply_gate_iff (gate : Gate) (left right : SafeInt kind) :
    (gate.operator.apply left right).isValid = true ↔
      left.isValid = true ∧ right.isValid = true := by
  simp only [isValid, poisoned_apply_gate, Bool.not_or, Bool.and_eq_true]

theorem stored_apply_gate (gate : Gate) {left right : SafeInt kind}
    (leftValid : left.isValid = true) (rightValid : right.isValid = true) :
    (gate.operator.apply left right).stored = gate.onWords left.stored right.stored := by
  have valid := (isValid_apply_gate_iff gate left right).mpr ⟨leftValid, rightValid⟩
  have defined := eq_some_stored_lift valid
  rw [gate.onWords_operator] at defined
  exact (Option.some.inj defined).symm

theorem digit_apply_gate (unsigned : kind.signed = false) (gate : Gate) {left right : SafeInt kind}
    (leftValid : left.isValid = true) (rightValid : right.isValid = true) (index : Nat) :
    (gate.operator.apply left right).stored.digit index =
      gate.onDigits (left.stored.digit index) (right.stored.digit index) := by
  rw [stored_apply_gate gate leftValid rightValid, Word.digit_onWords unsigned]

theorem poisoned_complement (value : SafeInt kind) :
    value.complement.poisoned = value.poisoned := by
  unfold complement
  cases value.poisoned <;> rfl

theorem isValid_complement_iff {value : SafeInt kind} :
    value.complement.isValid = true ↔ value.isValid = true := by
  simp only [isValid, poisoned_complement]

theorem stored_complement {value : SafeInt kind} (valid : value.complement.isValid = true) :
    value.complement.stored = value.stored.complement := by
  have valueValid := isValid_complement_iff.mp valid
  rw [eq_ofWord_of_isValid valueValid]
  rfl

/-- The ways to write an operator between a value and a word. -/
inductive WordWriting where
  | onRight | assigned | onLeft
deriving DecidableEq, Repr

def WordWriting.form : WordWriting → Word kind → OperandForm kind
  | onRight => .word
  | assigned => .assignWord
  | onLeft => .wordOnLeft

/-- An expression of gates and complements.  A gate joins two expressions, or an expression and a
word. -/
inductive BitTerm (kind : IntKind) where
  | leaf (value : SafeInt kind)
  | joined (gate : Gate) (writing : Writing) (left right : BitTerm kind)
  | joinedWord (gate : Gate) (writing : WordWriting) (operand : BitTerm kind) (word : Word kind)
  | complement (operand : BitTerm kind)

namespace BitTerm

def eval : BitTerm kind → SafeInt kind
  | leaf value => value
  | joined gate writing left right =>
      gate.operator.applyForm left.eval (writing.form right.eval)
  | joinedWord gate writing operand word =>
      gate.operator.applyForm operand.eval (writing.form word)
  | complement operand => operand.eval.complement

def leaves : BitTerm kind → List (SafeInt kind)
  | leaf value => [value]
  | joined _ _ left right => left.leaves ++ right.leaves
  | joinedWord _ _ operand _ => operand.leaves
  | complement operand => operand.leaves

/-- The digit that the expression computes, where `digitOf` tells a digit of each word. -/
def digitFrom (digitOf : Word kind → Bool) : BitTerm kind → Bool
  | leaf value => digitOf value.stored
  | joined gate _ left right => gate.onDigits (left.digitFrom digitOf) (right.digitFrom digitOf)
  | joinedWord gate .onLeft operand word =>
      gate.onDigits (digitOf word) (operand.digitFrom digitOf)
  | joinedWord gate _ operand word => gate.onDigits (operand.digitFrom digitOf) (digitOf word)
  | complement operand => !operand.digitFrom digitOf

theorem poisoned_eval (term : BitTerm kind) :
    term.eval.poisoned = term.leaves.any fun leaf => leaf.poisoned := by
  induction term with
  | leaf value => simp [eval, leaves]
  | joined gate writing left right leftHypothesis rightHypothesis =>
      rw [eval, applyForm_writing, poisoned_apply_gate, leftHypothesis, rightHypothesis, leaves,
        List.any_append]
  | joinedWord gate writing operand word inductionHypothesis =>
      rw [eval, leaves, ← inductionHypothesis, applyForm_eq_apply]
      cases writing with
      | onRight | assigned =>
          exact (poisoned_apply_gate gate operand.eval (ofWord word)).trans (Bool.or_false _)
      | onLeft =>
          exact (poisoned_apply_gate gate (ofWord word) operand.eval).trans (Bool.false_or _)
  | complement operand inductionHypothesis =>
      rw [eval, poisoned_complement, inductionHypothesis, leaves]

/-- The induction over the expression.  A part of a valid expression is valid, and below the width a
complement turns every digit. -/
theorem digit_eval (unsigned : kind.signed = false) {term : BitTerm kind}
    (valid : term.eval.isValid = true) {index : Nat} (below : index < kind.bits) :
    term.eval.stored.digit index = term.digitFrom fun word => word.digit index := by
  induction term with
  | leaf value => rfl
  | joined gate writing left right leftHypothesis rightHypothesis =>
      rw [eval, applyForm_writing] at valid ⊢
      rcases (isValid_apply_gate_iff gate _ _).mp valid with ⟨leftValid, rightValid⟩
      rw [digit_apply_gate unsigned gate leftValid rightValid, leftHypothesis leftValid,
        rightHypothesis rightValid, digitFrom]
  | joinedWord gate writing operand word inductionHypothesis =>
      have wordValid : (ofWord word).isValid = true := rfl
      cases writing with
      | onRight | assigned =>
          have operandValid := ((isValid_apply_gate_iff gate operand.eval (ofWord word)).mp valid).1
          refine (digit_apply_gate unsigned gate operandValid wordValid index).trans ?_
          rw [inductionHypothesis operandValid]
          rfl
      | onLeft =>
          have operandValid := ((isValid_apply_gate_iff gate (ofWord word) operand.eval).mp valid).2
          refine (digit_apply_gate unsigned gate wordValid operandValid index).trans ?_
          rw [inductionHypothesis operandValid]
          rfl
  | complement operand inductionHypothesis =>
      rw [eval] at valid ⊢
      have operandValid := isValid_complement_iff.mp valid
      rw [stored_complement valid, Word.digit_complement unsigned, decide_eq_true below,
        Bool.true_and, inductionHypothesis operandValid, digitFrom]

/-- A bitwise expression over unsigned values, in any writing, is poisoned exactly if one of its
leaves is.  Otherwise each digit below the width is computed from the digits of the leaves and the
words at its position; no digit at the width or beyond is set. -/
theorem eval_digitwise (unsigned : kind.signed = false) (term : BitTerm kind) :
    (term.eval.poisoned = true ↔ ∃ leaf ∈ term.leaves, leaf.poisoned = true) ∧
    (term.eval.poisoned = false → ∀ index < kind.bits,
      term.eval.stored.digit index = term.digitFrom fun word => word.digit index) ∧
    ∀ index, kind.bits ≤ index → term.eval.stored.digit index = false := by
  refine ⟨?_, ?_, ?_⟩
  · rw [term.poisoned_eval, List.any_eq_true]
  · intro unpoisoned index below
    have valid : term.eval.isValid = true := by rw [isValid, unpoisoned]; rfl
    exact digit_eval unsigned valid below
  · intro index beyond
    exact Word.digit_of_bits_le unsigned term.eval.stored beyond

/-- Two hundred and four is 11001100, one hundred and seventy 10101010 and fifteen 00001111.  A word
that would settle every digit does not take the poison away. -/
theorem eval_digitwise_sample :
    let value : SafeInt .u8 := ofWord ⟨204, by decide⟩
    let term : BitTerm .u8 := .complement (.joinedWord .xor .onLeft
      (.joined .or .assignShared (.leaf value) (.leaf (ofWord ⟨170, by decide⟩))) ⟨15, by decide⟩)
    let lost : BitTerm .u8 := .joinedWord .and .assigned (.leaf (failure .u8)) (Word.zero .u8)
    (term.eval.stored.digit 0 = false ∧ term.eval.stored.digit 1 = true ∧
      term.eval.stored.digit 4 = true ∧ term.eval.stored.digit 8 = false) ∧
      lost.eval.poisoned = true := by
  intro value term lost
  rcases eval_digitwise rfl term with ⟨-, digits, beyond⟩
  refine ⟨⟨?_, ?_, ?_, beyond 8 (by decide)⟩, ?_⟩
  · rw [digits rfl 0 (by decide)]
    rfl
  · rw [digits rfl 1 (by decide)]
    rfl
  · rw [digits rfl 4 (by decide)]
    rfl
  · exact (eval_digitwise rfl lost).1.mpr ⟨failure .u8, List.mem_cons_self, rfl⟩

end BitTerm

/-! ## Bitwise operations and arithmetic -/

section Unsigned

variable (unsigned : kind.signed = false)

include unsigned

theorem and_add_or (left right : SafeInt kind) :
    (left &&& right) + (left ||| right) = left + right := by
  rcases left with ⟨leftWord, leftMark⟩
  rcases right with ⟨rightWord, rightMark⟩
  cases leftMark with
  | true => rfl
  | false =>
      cases rightMark with
      | true => rfl
      | false =>
          have sums := Word.toInt_and_add_or unsigned leftWord rightWord
          exact congrArg (fun total => ofOption (Word.ofInt? kind total)) sums

theorem or_sub_and (left right : SafeInt kind) :
    (left ||| right) - (left &&& right) = left ^^^ right := by
  rcases left with ⟨leftWord, leftMark⟩
  rcases right with ⟨rightWord, rightMark⟩
  cases leftMark with
  | true => rfl
  | false =>
      cases rightMark with
      | true => rfl
      | false =>
          have sums := Word.toInt_and_add_xor unsigned leftWord rightWord
          change ofOption (Word.ofInt? kind
            ((leftWord.or rightWord).toInt - (leftWord.and rightWord).toInt)) =
              ofWord (leftWord.xor rightWord)
          rw [← sums, add_sub_cancel_left, Word.ofInt?_toInt]
          rfl

theorem maximum_sub (value : SafeInt kind) : maximum kind - value = value.complement := by
  rcases value with ⟨word, mark⟩
  cases mark with
  | true => rfl
  | false =>
      have sums := Word.toInt_add_complement unsigned word
      change ofOption (Word.ofInt? kind (kind.max - word.toInt)) = ofWord word.complement
      rw [← sums, add_sub_cancel_left, Word.ofInt?_toInt]
      rfl

/-- For unsigned values, valid or poisoned, conjunction and disjunction add up to the sum and are
poisoned with it.  Their difference is the exclusive disjunction, poisoned only by a poisoned
operand.  The complement is the difference to the greatest value. -/
theorem bitwise_agrees_with_arithmetic (left right : SafeInt kind) :
    ((left &&& right) + (left ||| right) = left + right ∧
      (((left &&& right) + (left ||| right)).poisoned = true ↔ (left + right).poisoned = true)) ∧
    ((left ||| right) - (left &&& right) = left ^^^ right ∧
      (((left ||| right) - (left &&& right)).poisoned = true ↔
        left.poisoned = true ∨ right.poisoned = true)) ∧
    left.complement = maximum kind - left := by
  refine ⟨⟨and_add_or unsigned left right, ?_⟩, ⟨or_sub_and unsigned left right, ?_⟩,
    (maximum_sub unsigned left).symm⟩
  · rw [and_add_or unsigned left right]
  · rw [or_sub_and unsigned left right, ← Bool.or_eq_true, ← poisoned_apply_gate .xor left right]
    rfl

end Unsigned

/-- Two hundred and one hundred leave the eight digits of their kind, both ways; with fifty they
stay. -/
theorem bitwise_agrees_at_the_limit :
    let big : SafeInt .u8 := ofWord ⟨200, by decide⟩
    let hundred : SafeInt .u8 := ofWord ⟨100, by decide⟩
    let fifty : SafeInt .u8 := ofWord ⟨50, by decide⟩
    ((big &&& hundred) + (big ||| hundred) = failure .u8 ∧
      (big &&& fifty) + (big ||| fifty) = ofWord ⟨250, by decide⟩) ∧
      (big ||| hundred) - (big &&& hundred) = big ^^^ hundred ∧
      big.complement = ofWord ⟨55, by decide⟩ := by
  intro big hundred fifty
  rcases bitwise_agrees_with_arithmetic rfl big hundred with ⟨⟨sum, -⟩, ⟨difference, -⟩, missing⟩
  refine ⟨⟨sum.trans (by decide), ?_⟩, difference, missing.trans (by decide)⟩
  exact (bitwise_agrees_with_arithmetic rfl big fifty).1.1.trans (by decide)

end SafeInt
end Assurance
