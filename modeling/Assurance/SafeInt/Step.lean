import Assurance.SafeInt.Arithmetic
import Assurance.SafeInt.Json

namespace Assurance

/-!
# Steps on an accumulator

An accumulator is a safe integer of some kind.  A step computes the next one:
it applies an operator, builds a fresh value, converts to another kind or
decodes a text.  A step that does not exist for the kind, or a text that cannot
be decoded, is refused, and the accumulator stays as it is.
-/

/-- A safe integer with its kind. -/
structure Accumulator where
  kind : IntKind
  value : SafeInt kind

namespace SafeInt

/-- The ways to build a value without looking at an old one. -/
inductive Construction (kind : IntKind) where
  | word (word : Word kind)
  | withPoison (word : Word kind) (invalid : Bool)
  | failure
  | zero
  | one
  | minimum
  | maximum

/-- The value that a construction builds. -/
def Construction.build {kind : IntKind} : Construction kind → SafeInt kind
  | word value => ofWord value
  | withPoison value invalid => SafeInt.withPoison value invalid
  | failure => SafeInt.failure kind
  | zero => SafeInt.zero kind
  | one => SafeInt.one kind
  | minimum => SafeInt.minimum kind
  | maximum => SafeInt.maximum kind

/-- One step on an accumulator of a kind. -/
inductive Step (kind : IntKind) where
  | operate (operator : Operator) (form : OperandForm kind)
  | shift (direction : Shift) {amountKind : IntKind} (amount : SafeInt amountKind)
  | negate
  | abs
  | complement
  | increment
  | decrement
  | incrementDecrement
  | decrementIncrement
  | smaller (other : SafeInt kind)
  | greater (other : SafeInt kind)
  | construct (construction : Construction kind)
  | convert (target : IntKind)
  | decode (text : String)

/-- Why a step is refused. -/
inductive Refusal where
  /-- The kind has no such operation. -/
  | unsupported
  /-- The text does not denote a value of the kind. -/
  | undecodable (failure : Json.Failure)
deriving DecidableEq, Repr

/-- The accumulator after a step. -/
def Step.run {kind : IntKind} (step : Step kind) (value : SafeInt kind) :
    Except Refusal Accumulator :=
  let keep (result : SafeInt kind) : Except Refusal Accumulator := .ok ⟨kind, result⟩
  match step with
  | operate operator form =>
      if operator.availableFor kind then keep (operator.applyForm value form)
      else .error .unsupported
  | shift direction amount => keep (direction.apply value amount)
  | negate => if kind.signed then keep (-value) else .error .unsupported
  | abs => if kind.signed then keep value.abs else .error .unsupported
  | complement => if kind.signed then .error .unsupported else keep value.complement
  | increment => keep value.increment
  | decrement => keep value.decrement
  | incrementDecrement => keep value.increment.decrement
  | decrementIncrement => keep value.decrement.increment
  | smaller other => keep (value.smaller other)
  | greater other => keep (value.greater other)
  | construct construction => keep construction.build
  | convert target => .ok ⟨target, value.convert target⟩
  | decode text =>
      match ofJson kind text with
      | .ok result => keep result
      | .error failure => .error (.undecodable failure)

end SafeInt

end Assurance
