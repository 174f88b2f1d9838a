import Assurance.Proofs.Json.Integer
import Assurance.SafeInt.Display
import Assurance.SafeInt.Order
import Assurance.SafeInt.Step

namespace Assurance
namespace SafeInt

/-!
# Poison over whole runs

A script starts from a value that can be built and applies one operation after
the other, with the accumulator on either side of an operator and with changes
of kind on the way.  Whatever the script, a poisoned accumulator stores zero, so
there is one poisoned value of each kind and nothing that is read from it tells
what poisoned it.  Poison is left only by building a value afresh: the operation
that does so gives the same result for every accumulator.

The operands beside the accumulator are arbitrary.  They need not be canonical
themselves, since no operation hands an operand on as it stands; only the
absolute value hands on the accumulator.
-/

variable {kind : IntKind}

/-- The canonical values are exactly those that some construction builds. -/
theorem canonical_iff_built {value : SafeInt kind} :
    value.Canonical ↔ ∃ construction : Construction kind, construction.build = value := by
  constructor
  · intro canonical
    refine ⟨.withPoison value.stored value.poisoned, ?_⟩
    rcases value with ⟨stored, poisoned⟩
    cases poisoned with
    | false => rfl
    | true => exact congrArg (SafeInt.mk · true) (canonical rfl).symm
  · rintro ⟨construction, rfl⟩
    cases construction with
    | withPoison word invalid => exact canonical_withPoison word invalid
    | failure => exact canonical_failure
    | word | zero | one | minimum | maximum => exact canonical_ofWord _

/-- The ways to write an operator between two values. -/
inductive Writing where
  | values | sharedRight | sharedLeft | sharedBoth | assign | assignShared
deriving DecidableEq, Repr

/-- The operand form of a written operator with a given right operand. -/
def Writing.form : Writing → SafeInt kind → OperandForm kind
  | values => .value
  | sharedRight => .sharedRight
  | sharedLeft => .sharedLeft
  | sharedBoth => .sharedBoth
  | assign => .assignValue
  | assignShared => .assignShared

/-- One operation of a script.  Beside the steps, where the accumulator comes first, there are the
operations in which it comes second. -/
inductive Move (kind : IntKind) where
  | step (step : Step kind)
  /-- A value, then the accumulator, in any writing. -/
  | operateAfter (operator : Operator) (writing : Writing) (left : SafeInt kind)
  /-- A value of any kind, shifted by the accumulator. -/
  | shiftBy (direction : Shift) {shiftedKind : IntKind} (shifted : SafeInt shiftedKind)
  | smallerAfter (left : SafeInt kind)
  | greaterAfter (left : SafeInt kind)

def Move.run : Move kind → SafeInt kind → Except Refusal Accumulator
  | .step alone, value => alone.run value
  | operateAfter operator writing left, value =>
      (Step.operate operator (writing.form value)).run left
  | shiftBy direction shifted, value => (Step.shift direction value).run shifted
  | smallerAfter left, value => (Step.smaller value).run left
  | greaterAfter left, value => (Step.greater value).run left

/-- The accumulators that a script can reach from a value that can be built. -/
inductive Reached : Accumulator → Prop where
  | start {kind : IntKind} (construction : Construction kind) : Reached ⟨kind, construction.build⟩
  | next {kind : IntKind} {value : SafeInt kind} {after : Accumulator}
      (before : Reached ⟨kind, value⟩) (move : Move kind) (ran : move.run value = .ok after) :
      Reached after

theorem Step.canonical_run {step : Step kind} {value : SafeInt kind} {after : Accumulator}
    (ran : step.run value = .ok after) (canonical : value.Canonical) : after.value.Canonical := by
  cases step <;> simp only [Step.run] at ran
  case operate operator form =>
    split at ran
    · cases ran
      exact canonical_applyForm operator value form
    · cases ran
  case shift direction amountKind amount =>
    cases ran
    exact canonical_shift direction value amount
  case negate =>
    split at ran
    · cases ran
      exact canonical_negate value
    · cases ran
  case abs =>
    split at ran
    · cases ran
      exact canonical_abs canonical
    · cases ran
  case complement =>
    split at ran
    · cases ran
    · cases ran
      exact canonical_complement value
  case increment | decrement | incrementDecrement | decrementIncrement =>
    cases ran
    exact canonical_applyForm _ _ _
  case smaller | greater =>
    cases ran
    exact canonical_lift _ _ _
  case construct construction =>
    cases ran
    exact canonical_iff_built.mpr ⟨construction, rfl⟩
  case convert target =>
    cases ran
    exact canonical_convert target value
  case decode text =>
    split at ran
    · rename_i result decoded
      cases ran
      rcases failure_or_integer_of_ofJson decoded with failed | ⟨word, valid, integer⟩
      · rw [failed]
        exact canonical_failure
      · rw [valid]
        exact canonical_ofWord word
    · cases ran

theorem Move.canonical_run {move : Move kind} {value : SafeInt kind} {after : Accumulator}
    (ran : move.run value = .ok after) (canonical : value.Canonical) : after.value.Canonical := by
  cases move with
  | step step => exact step.canonical_run ran canonical
  | operateAfter operator writing left =>
      simp only [Move.run, Step.run] at ran
      split at ran
      · cases ran
        exact canonical_applyForm operator left (writing.form value)
      · cases ran
  | shiftBy direction shifted =>
      cases ran
      exact canonical_shift direction shifted value
  | smallerAfter left =>
      cases ran
      exact canonical_lift _ left value
  | greaterAfter left =>
      cases ran
      exact canonical_lift _ left value

/-- The invariant of every run. -/
theorem canonical_of_reached {accumulator : Accumulator} (reached : Reached accumulator) :
    accumulator.value.Canonical := by
  induction reached with
  | start construction => exact canonical_iff_built.mpr ⟨construction, rfl⟩
  | next before move ran inductionHypothesis => exact move.canonical_run ran inductionHypothesis

theorem eq_failure_of_reached {value : SafeInt kind} (reached : Reached ⟨kind, value⟩)
    (poisoned : value.poisoned = true) : value = failure kind := by
  have canonical : value.Canonical := canonical_of_reached reached
  rw [← ofOption_checked canonical, checked_eq_none_iff.mpr poisoned]
  rfl

/-- Everything that can be read from a value is what is read from poison, whichever way it is
read. -/
structure ReadsAsPoison (value : SafeInt kind) : Prop where
  checked : value.checked = none
  get : value.get = (Word.zero kind, some ⟨kind⟩)
  getOr : ∀ otherwise, value.getOr otherwise = otherwise
  comparedOnLeft : ∀ other, (Comparison.values value other).sides = (Word.zero kind, other.stored)
  comparedOnRight : ∀ other, (Comparison.values other value).sides = (other.stored, Word.zero kind)
  comparedWithWord : ∀ word, (Comparison.withWord value word).sides = (Word.zero kind, word)
  comparedAfterWord : ∀ word, (Comparison.wordOnLeft word value).sides = (word, Word.zero kind)
  hashKey : value.hashKey = 0
  display : ∀ layout, value.display layout = errorMark
  detail : ∀ layout, value.detail layout = (failure kind).detail layout
  toJson : value.toJson = "null"

theorem readsAsPoison_failure : ReadsAsPoison (failure kind) where
  checked := rfl
  get := rfl
  getOr _ := rfl
  comparedOnLeft _ := rfl
  comparedOnRight _ := rfl
  comparedWithWord _ := rfl
  comparedAfterWord _ := rfl
  hashKey := rfl
  display _ := rfl
  detail _ := rfl
  toJson := rfl

/-! ## Poison stays -/

/-- The moves that build a valid value afresh, with what they build. -/
inductive Move.BuildsAfresh : Move kind → Accumulator → Prop where
  | word (word : Word kind) : BuildsAfresh (.step (.construct (.word word))) ⟨kind, ofWord word⟩
  | withoutPoison (word : Word kind) :
      BuildsAfresh (.step (.construct (.withPoison word false))) ⟨kind, ofWord word⟩
  | zero : BuildsAfresh (.step (.construct .zero)) ⟨kind, SafeInt.zero kind⟩
  | one : BuildsAfresh (.step (.construct .one)) ⟨kind, SafeInt.one kind⟩
  | minimum : BuildsAfresh (.step (.construct .minimum)) ⟨kind, SafeInt.minimum kind⟩
  | maximum : BuildsAfresh (.step (.construct .maximum)) ⟨kind, SafeInt.maximum kind⟩
  | decode (text : String) (word : Word kind) (integer : Json.IsInteger text.toList word.toInt) :
      BuildsAfresh (.step (.decode text)) ⟨kind, ofWord word⟩

/-- A construction that gives a valid value is one of those that build afresh. -/
theorem Construction.buildsAfresh {construction : Construction kind}
    (valid : construction.build.poisoned = false) :
    Move.BuildsAfresh (.step (.construct construction)) ⟨kind, construction.build⟩ := by
  cases construction with
  | word word => exact .word word
  | withPoison word invalid =>
      cases invalid with
      | false => exact .withoutPoison word
      | true => cases valid
  | failure => cases valid
  | zero => exact .zero
  | one => exact .one
  | minimum => exact .minimum
  | maximum => exact .maximum

/-- One step on a poisoned accumulator: the result is poisoned, or it was built afresh. -/
theorem Step.poisoned_or_afresh {step : Step kind} {value : SafeInt kind} {after : Accumulator}
    (ran : step.run value = .ok after) (poisoned : value.poisoned = true) :
    after.value.poisoned = true ∨ Move.BuildsAfresh (.step step) after := by
  have unread := checked_eq_none_iff.mpr poisoned
  cases step <;> simp only [Step.run] at ran
  case operate operator form =>
    split at ran
    · cases ran
      exact Or.inl (poisoned_applyForm poisoned)
    · cases ran
  case shift direction amountKind amount =>
    cases ran
    exact Or.inl (checked_eq_none_iff.mp (by rw [checked_shift, unread]; rfl))
  case negate =>
    split at ran
    · cases ran
      exact Or.inl (checked_eq_none_iff.mp (by rw [checked_negate, unread]; rfl))
    · cases ran
  case abs =>
    split at ran
    · cases ran
      exact Or.inl (checked_eq_none_iff.mp (by rw [checked_abs, unread]; rfl))
    · cases ran
  case complement =>
    split at ran
    · cases ran
    · cases ran
      exact Or.inl (checked_eq_none_iff.mp (by rw [checked_complement, unread]; rfl))
  case increment | decrement =>
    cases ran
    exact Or.inl (poisoned_applyForm poisoned)
  case incrementDecrement | decrementIncrement =>
    cases ran
    exact Or.inl (poisoned_applyForm (poisoned_applyForm poisoned))
  case smaller | greater =>
    cases ran
    exact Or.inl (poisoned_lift_left poisoned)
  case construct construction =>
    cases ran
    cases mark : construction.build.poisoned with
    | true => exact Or.inl rfl
    | false => exact Or.inr (Construction.buildsAfresh mark)
  case convert target =>
    cases ran
    exact Or.inl (checked_eq_none_iff.mp (by rw [checked_convert, unread]; rfl))
  case decode text =>
    split at ran
    · rename_i result decoded
      cases ran
      rcases failure_or_integer_of_ofJson decoded with failed | ⟨word, valid, integer⟩
      · rw [failed]
        exact Or.inl rfl
      · rw [valid]
        exact Or.inr (.decode text word integer)
    · cases ran

/-- The same for an operation with the accumulator on either side. -/
theorem Move.poisoned_or_afresh {move : Move kind} {value : SafeInt kind} {after : Accumulator}
    (ran : move.run value = .ok after) (poisoned : value.poisoned = true) :
    after.value.poisoned = true ∨ move.BuildsAfresh after := by
  have unread := checked_eq_none_iff.mpr poisoned
  cases move with
  | step step => exact step.poisoned_or_afresh ran poisoned
  | operateAfter operator writing left =>
      simp only [Move.run, Step.run] at ran
      split at ran
      · cases ran
        refine Or.inl ?_
        cases writing <;> exact poisoned_lift_right poisoned
      · cases ran
  | shiftBy direction shifted =>
      cases ran
      refine Or.inl (checked_eq_none_iff.mp ?_)
      change (direction.apply shifted value).checked = none
      rw [checked_shift, unread]
      cases shifted.checked <;> rfl
  | smallerAfter left =>
      cases ran
      exact Or.inl (poisoned_lift_right poisoned)
  | greaterAfter left =>
      cases ran
      exact Or.inl (poisoned_lift_right poisoned)

/-- What is built afresh is the same for every accumulator. -/
theorem Move.BuildsAfresh.run_eq {move : Move kind} {value : SafeInt kind} {after : Accumulator}
    (afresh : move.BuildsAfresh after) (ran : move.run value = .ok after) (other : SafeInt kind) :
    move.run other = .ok after := by
  cases afresh <;> exact ran

/-- A poisoned accumulator stores zero and is the one poisoned value of its kind, so it reads the
same whatever poisoned it; and an operation after which it is valid again builds a valid value
afresh, without looking at the accumulator. -/
theorem poison_of_reached {kind : IntKind} {value : SafeInt kind}
    (reached : Reached ⟨kind, value⟩) :
    (value.poisoned = true → value.stored = Word.zero kind) ∧
    (∀ other, Reached ⟨kind, other⟩ → value.poisoned = true → other.poisoned = true →
      other = value) ∧
    (value.poisoned = true → ReadsAsPoison value) ∧
    ∀ (move : Move kind) (after : Accumulator), move.run value = .ok after →
      value.poisoned = true → after.value.poisoned = false →
        move.BuildsAfresh after ∧ ∀ other, move.run other = .ok after := by
  refine ⟨canonical_of_reached reached, ?_, ?_, ?_⟩
  · intro other otherReached poisoned otherPoisoned
    rw [eq_failure_of_reached reached poisoned,
      eq_failure_of_reached otherReached otherPoisoned]
  · intro poisoned
    rw [eq_failure_of_reached reached poisoned]
    exact readsAsPoison_failure
  · intro move after ran poisoned valid
    rcases move.poisoned_or_afresh ran poisoned with stays | afresh
    · rw [stays] at valid
      cases valid
    · exact ⟨afresh, afresh.run_eq ran⟩

/-- Incrementing the maximum poisons it; the poison is the one that every other cause leaves, and a
fresh one ends it. -/
theorem poison_of_increment :
    Reached ⟨.i8, (maximum .i8).increment⟩ ∧
    (maximum .i8).increment.stored = Word.zero .i8 ∧
    (maximum .i8).increment = (minimum .i8).decrement ∧
    ReadsAsPoison (maximum .i8).increment ∧
    (Move.step (.construct .one) : Move .i8).BuildsAfresh ⟨.i8, SafeInt.one .i8⟩ := by
  have reached : Reached ⟨.i8, (maximum .i8).increment⟩ :=
    .next (.start .maximum) (.step .increment) rfl
  have reachedBelow : Reached ⟨.i8, (minimum .i8).decrement⟩ :=
    .next (.start .minimum) (.step .decrement) rfl
  have poisoned : (maximum .i8).increment.poisoned = true := by decide
  have poisonedBelow : (minimum .i8).decrement.poisoned = true := by decide
  rcases poison_of_reached reached with ⟨stored, unique, reads, fresh⟩
  refine ⟨reached, stored poisoned, (unique _ reachedBelow poisoned poisonedBelow).symm,
    reads poisoned, ?_⟩
  exact (fresh (.step (.construct .one)) ⟨.i8, SafeInt.one .i8⟩ rfl poisoned rfl).1

end SafeInt
end Assurance
