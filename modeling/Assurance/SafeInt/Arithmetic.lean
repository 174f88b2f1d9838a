import Assurance.SafeInt.Basic

namespace Assurance

/-!
# Operations on safe integers

Every operation that can fail has one shape: a poisoned operand gives poison,
and otherwise the checked operation on the stored words decides.  The ways to
write an operator's operands (a raw word on either side, shared operands, an
assignment) all come down to that one operation, in the order in which the
operands are written.
-/

namespace SafeInt

variable {kind : IntKind}

/-- Applies a checked operation to two values, unless one of them is poisoned. -/
def lift (operation : Word kind → Word kind → Option (Word kind))
    (left right : SafeInt kind) : SafeInt kind :=
  if left.poisoned || right.poisoned then failure kind
  else ofOption (operation left.stored right.stored)

/-- The binary operators. -/
inductive Operator where
  | add | sub | mul | div | rem | and | or | xor
deriving DecidableEq, Repr

namespace Operator

/-- Whether an operator works on digits; such operators exist for unsigned kinds only. -/
def bitwise : Operator → Bool
  | and | or | xor => true
  | add | sub | mul | div | rem => false

def availableFor (operator : Operator) (kind : IntKind) : Bool :=
  !(operator.bitwise && kind.signed)

/-- The checked operation of an operator on words. -/
def onWords : Operator → Word kind → Word kind → Option (Word kind)
  | add => Word.add?
  | sub => Word.sub?
  | mul => Word.mul?
  | div => Word.div?
  | rem => Word.rem?
  | and => fun left right => some (left.and right)
  | or => fun left right => some (left.or right)
  | xor => fun left right => some (left.xor right)

def apply (operator : Operator) (left right : SafeInt kind) : SafeInt kind :=
  lift operator.onWords left right

end Operator

instance : Add (SafeInt kind) := ⟨Operator.add.apply⟩
instance : Sub (SafeInt kind) := ⟨Operator.sub.apply⟩
instance : Mul (SafeInt kind) := ⟨Operator.mul.apply⟩
instance : Div (SafeInt kind) := ⟨Operator.div.apply⟩
instance : Mod (SafeInt kind) := ⟨Operator.rem.apply⟩
instance : AndOp (SafeInt kind) := ⟨Operator.and.apply⟩
instance : OrOp (SafeInt kind) := ⟨Operator.or.apply⟩
instance : XorOp (SafeInt kind) := ⟨Operator.xor.apply⟩

theorem canonical_lift (operation : Word kind → Word kind → Option (Word kind))
    (left right : SafeInt kind) : Canonical (lift operation left right) := by
  unfold lift
  split
  · exact canonical_failure
  · exact canonical_ofOption _

/-- A lifted operation reads as the checked operation on what its operands read as. -/
theorem checked_lift (operation : Word kind → Word kind → Option (Word kind))
    (left right : SafeInt kind) :
    (lift operation left right).checked =
      left.checked.bind fun first => right.checked.bind fun second => operation first second := by
  rcases left with ⟨leftWord, leftMark⟩
  rcases right with ⟨rightWord, rightMark⟩
  cases leftMark <;> cases rightMark <;> simp [lift, checked, failure]
  exact checked_ofOption _

/-- On valid operands a lifted operation is the operation on their words. -/
theorem lift_of_isValid (operation : Word kind → Word kind → Option (Word kind))
    {left right : SafeInt kind} (leftValid : left.isValid = true)
    (rightValid : right.isValid = true) :
    lift operation left right = ofOption (operation left.stored right.stored) := by
  rw [eq_ofWord_of_isValid leftValid, eq_ofWord_of_isValid rightValid]
  rfl

theorem isValid_lift_iff {operation : Word kind → Word kind → Option (Word kind)}
    {left right : SafeInt kind} :
    (lift operation left right).isValid = true ↔
      (left.isValid = true ∧ right.isValid = true) ∧
        ∃ word, operation left.stored right.stored = some word := by
  rcases left with ⟨leftWord, leftMark⟩
  rcases right with ⟨rightWord, rightMark⟩
  cases leftMark with
  | true => simp [lift, isValid, failure]
  | false =>
      cases rightMark with
      | true => simp [lift, isValid, failure]
      | false => exact isValid_ofOption_iff.trans (by simp [isValid])

/-- A valid result stores what the operation gives on the words of the operands. -/
theorem eq_some_stored_lift {operation : Word kind → Word kind → Option (Word kind)}
    {left right : SafeInt kind} (valid : (lift operation left right).isValid = true) :
    operation left.stored right.stored = some (lift operation left right).stored := by
  rcases isValid_lift_iff.mp valid with ⟨⟨leftValid, rightValid⟩, word, defined⟩
  rw [lift_of_isValid operation leftValid rightValid, defined]
  rfl

theorem isValid_add_iff {left right : SafeInt kind} :
    (left + right).isValid = true ↔
      (left.isValid = true ∧ right.isValid = true) ∧
        kind.InRange (left.stored.toInt + right.stored.toInt) :=
  isValid_lift_iff.trans (and_congr_right fun _ => Word.exists_ofInt?_iff)

theorem stored_add {left right : SafeInt kind} (valid : (left + right).isValid = true) :
    (left + right).stored.toInt = left.stored.toInt + right.stored.toInt :=
  Word.ofInt?_eq_some_iff.mp (eq_some_stored_lift valid)

theorem isValid_mul_iff {left right : SafeInt kind} :
    (left * right).isValid = true ↔
      (left.isValid = true ∧ right.isValid = true) ∧
        kind.InRange (left.stored.toInt * right.stored.toInt) :=
  isValid_lift_iff.trans (and_congr_right fun _ => Word.exists_ofInt?_iff)

theorem stored_mul {left right : SafeInt kind} (valid : (left * right).isValid = true) :
    (left * right).stored.toInt = left.stored.toInt * right.stored.toInt :=
  Word.ofInt?_eq_some_iff.mp (eq_some_stored_lift valid)

theorem poisoned_lift_left {operation : Word kind → Word kind → Option (Word kind)}
    {left right : SafeInt kind} (poisoned : left.poisoned = true) :
    (lift operation left right).poisoned = true := by
  rw [← checked_eq_none_iff] at poisoned ⊢
  rw [checked_lift, poisoned]
  rfl

theorem poisoned_lift_right {operation : Word kind → Word kind → Option (Word kind)}
    {left right : SafeInt kind} (poisoned : right.poisoned = true) :
    (lift operation left right).poisoned = true := by
  rw [← checked_eq_none_iff] at poisoned ⊢
  rw [checked_lift, poisoned]
  cases left.checked <;> rfl

/-- The ways to write the operands of an operator beside an accumulator. -/
inductive OperandForm (kind : IntKind) where
  /-- The accumulator, then a value. -/
  | value (right : SafeInt kind)
  /-- The accumulator, then a word. -/
  | word (right : Word kind)
  /-- The accumulator, then a shared value. -/
  | sharedRight (right : SafeInt kind)
  /-- The shared accumulator, then a value. -/
  | sharedLeft (right : SafeInt kind)
  /-- The shared accumulator, then a shared value. -/
  | sharedBoth (right : SafeInt kind)
  /-- A word, then the accumulator. -/
  | wordOnLeft (left : Word kind)
  /-- An assignment of the result with a value to the accumulator. -/
  | assignValue (right : SafeInt kind)
  /-- An assignment of the result with a word to the accumulator. -/
  | assignWord (right : Word kind)
  /-- An assignment of the result with a shared value to the accumulator. -/
  | assignShared (right : SafeInt kind)

/-- The accumulator after an operator was applied in a given form. -/
def Operator.applyForm (operator : Operator) (accumulator : SafeInt kind) :
    OperandForm kind → SafeInt kind
  | .value right => operator.apply accumulator right
  | .word right => operator.apply accumulator (ofWord right)
  | .sharedRight right => operator.apply accumulator right
  | .sharedLeft right => operator.apply accumulator right
  | .sharedBoth right => operator.apply accumulator right
  | .wordOnLeft left => operator.apply (ofWord left) accumulator
  | .assignValue right => operator.apply accumulator right
  | .assignWord right => operator.apply accumulator (ofWord right)
  | .assignShared right => operator.apply accumulator right

theorem canonical_applyForm (operator : Operator) (accumulator : SafeInt kind)
    (form : OperandForm kind) : Canonical (operator.applyForm accumulator form) := by
  cases form <;> exact canonical_lift _ _ _

theorem poisoned_applyForm {operator : Operator} {accumulator : SafeInt kind}
    {form : OperandForm kind} (poisoned : accumulator.poisoned = true) :
    (operator.applyForm accumulator form).poisoned = true := by
  cases form with
  | wordOnLeft left => exact poisoned_lift_right poisoned
  | value | word | sharedRight | sharedLeft | sharedBoth | assignValue | assignWord
  | assignShared => exact poisoned_lift_left poisoned

/-- The two directions of a shift. -/
inductive Shift where
  | left | right
deriving DecidableEq, Repr

/-- A shift of a word by a number of digits. -/
def Shift.onWord : Shift → Word kind → Nat → Option (Word kind)
  | left => Word.shiftLeft?
  | right => Word.shiftRight?

/-- A shift by an amount of any kind.  An amount that is negative or not below the width poisons. -/
def Shift.apply {amountKind : IntKind} (direction : Shift) (value : SafeInt kind)
    (amount : SafeInt amountKind) : SafeInt kind :=
  if value.poisoned || amount.poisoned then failure kind
  else ofOption (amount.stored.shiftAmount?.bind (direction.onWord value.stored))

theorem checked_shift {amountKind : IntKind} (direction : Shift) (value : SafeInt kind)
    (amount : SafeInt amountKind) :
    (direction.apply value amount).checked =
      value.checked.bind fun word => amount.checked.bind fun count =>
        count.shiftAmount?.bind (direction.onWord word) := by
  rcases value with ⟨word, mark⟩
  rcases amount with ⟨count, amountMark⟩
  cases mark with
  | true => rfl
  | false =>
      cases amountMark with
      | true => rfl
      | false => exact checked_ofOption _

theorem canonical_shift {amountKind : IntKind} (direction : Shift) (value : SafeInt kind)
    (amount : SafeInt amountKind) : Canonical (direction.apply value amount) := by
  unfold Shift.apply
  split
  · exact canonical_failure
  · exact canonical_ofOption _

/-! ## Unary operations -/

/-- The negation, which poisons where it is not representable. -/
def negate (value : SafeInt kind) : SafeInt kind :=
  if value.poisoned then failure kind else ofOption value.stored.neg?

instance : Neg (SafeInt kind) := ⟨negate⟩

/-- The absolute value, which poisons for the least value of a signed kind. -/
def abs (value : SafeInt kind) : SafeInt kind :=
  if value.isNegative then -value else value

def complement (value : SafeInt kind) : SafeInt kind :=
  if value.poisoned then failure kind else ofWord value.stored.complement

/-- One more. -/
def increment (value : SafeInt kind) : SafeInt kind :=
  Operator.add.applyForm value (.assignWord (Word.one kind))

/-- One less. -/
def decrement (value : SafeInt kind) : SafeInt kind :=
  Operator.sub.applyForm value (.assignWord (Word.one kind))

theorem canonical_negate (value : SafeInt kind) : Canonical (-value) := by
  change Canonical (negate value)
  unfold negate
  split
  · exact canonical_failure
  · exact canonical_ofOption _

theorem checked_negate (value : SafeInt kind) :
    (-value).checked = value.checked.bind Word.neg? := by
  rcases value with ⟨word, mark⟩
  cases mark with
  | false => exact checked_ofOption _
  | true => rfl

/-- The absolute value is canonical only if its operand is: what is not negative is kept as it
is. -/
theorem canonical_abs {value : SafeInt kind} (canonical : value.Canonical) :
    Canonical value.abs := by
  unfold abs
  split
  · exact canonical_negate value
  · exact canonical

theorem checked_abs (value : SafeInt kind) :
    value.abs.checked =
      value.checked.bind fun word => if word.toInt < 0 then word.neg? else some word := by
  rcases value with ⟨word, mark⟩
  cases mark with
  | true => rfl
  | false =>
      by_cases negative : word.toInt < 0
      · have recognized : isNegative (⟨word, false⟩ : SafeInt kind) = true :=
          decide_eq_true negative
        rw [abs, if_pos recognized, checked_negate]
        exact (if_pos negative).symm
      · have recognized : ¬ isNegative (⟨word, false⟩ : SafeInt kind) = true :=
          fun claimed => negative (of_decide_eq_true claimed)
        rw [abs, if_neg recognized]
        exact (if_neg negative).symm

theorem checked_complement (value : SafeInt kind) :
    value.complement.checked = value.checked.map Word.complement := by
  rcases value with ⟨word, mark⟩
  cases mark <;> rfl

theorem canonical_complement (value : SafeInt kind) : Canonical value.complement := by
  unfold complement
  split
  · exact canonical_failure
  · exact canonical_ofWord _

/-! ## Selection and conversion -/

/-- The smaller of two values, poisoned if either is. -/
def smaller (left right : SafeInt kind) : SafeInt kind :=
  lift (fun first second => some (if second.toInt < first.toInt then second else first)) left right

/-- The greater of two values, poisoned if either is. -/
def greater (left right : SafeInt kind) : SafeInt kind :=
  lift (fun first second => some (if second.toInt < first.toInt then first else second)) left right

/-- The same integer in another kind, poisoned if it does not fit. -/
def convert (target : IntKind) (value : SafeInt kind) : SafeInt target :=
  if value.poisoned then failure target else ofOption (value.stored.convert? target)

theorem canonical_convert (target : IntKind) (value : SafeInt kind) :
    Canonical (value.convert target) := by
  unfold convert
  split
  · exact canonical_failure
  · exact canonical_ofOption _

theorem checked_convert (target : IntKind) (value : SafeInt kind) :
    (value.convert target).checked = value.checked.bind (Word.convert? target) := by
  rcases value with ⟨word, mark⟩
  cases mark with
  | false => exact checked_ofOption _
  | true => rfl

end SafeInt

end Assurance
