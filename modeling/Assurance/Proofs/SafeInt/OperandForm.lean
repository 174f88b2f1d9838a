import Assurance.Proofs.SafeInt.Poison

namespace Assurance
namespace SafeInt

/-!
# One operation in every form

Beside an accumulator the operands of an operator can be written in many forms:
values, shared values or a word, on either side, as an expression or as an
assignment.  An increment and a decrement are written without an operator.

Whatever the form, the operation is that between two values, a word standing for
the valid value made of it, and the operands come in the order in which they are
written.  So a script of operators does the same for every choice of forms.  It
is refused, again in every form, where its kind lacks one of the operators.

Main statement: `SafeInt.runs_script_iff`.
-/

variable {kind : IntKind}

/-- An operator between the accumulator and another value. -/
inductive Operation (kind : IntKind) where
  | accumulatorFirst (operator : Operator) (right : SafeInt kind)
  | accumulatorSecond (operator : Operator) (left : SafeInt kind)

namespace Operation

def operator : Operation kind → Operator
  | accumulatorFirst operator _ => operator
  | accumulatorSecond operator _ => operator

def apply : Operation kind → SafeInt kind → SafeInt kind
  | accumulatorFirst operator right, accumulator => operator.apply accumulator right
  | accumulatorSecond operator left, accumulator => operator.apply left accumulator

def applyAll (operations : List (Operation kind)) (start : SafeInt kind) : SafeInt kind :=
  operations.foldl (fun accumulator operation => operation.apply accumulator) start

def AllAvailable (operations : List (Operation kind)) : Prop :=
  ∀ operation ∈ operations, operation.operator.availableFor kind = true

theorem applyAll_append (earlier later : List (Operation kind)) (start : SafeInt kind) :
    applyAll (earlier ++ later) start = applyAll later (applyAll earlier start) :=
  List.foldl_append

end Operation

/-- The operation that an operator means in a form. -/
def OperandForm.operation (operator : Operator) : OperandForm kind → Operation kind
  | value right => .accumulatorFirst operator right
  | word right => .accumulatorFirst operator (ofWord right)
  | sharedRight right => .accumulatorFirst operator right
  | sharedLeft right => .accumulatorFirst operator right
  | sharedBoth right => .accumulatorFirst operator right
  | wordOnLeft left => .accumulatorSecond operator (ofWord left)
  | assignValue right => .accumulatorFirst operator right
  | assignWord right => .accumulatorFirst operator (ofWord right)
  | assignShared right => .accumulatorFirst operator right

theorem applyForm_eq_apply (operator : Operator) (accumulator : SafeInt kind)
    (form : OperandForm kind) :
    operator.applyForm accumulator form = (form.operation operator).apply accumulator := by
  cases form <;> rfl

theorem operator_operation (operator : Operator) (form : OperandForm kind) :
    (form.operation operator).operator = operator := by
  cases form <;> rfl

theorem applyForm_writing (operator : Operator) (writing : Writing) (left right : SafeInt kind) :
    operator.applyForm left (writing.form right) = operator.apply left right := by
  cases writing <;> rfl

theorem ok_eq_ok_iff {result after : SafeInt kind} :
    (.ok ⟨kind, result⟩ : Except Refusal Accumulator) = .ok ⟨kind, after⟩ ↔ after = result := by
  simp [eq_comm]

theorem run_operate_iff {operator : Operator} {form : OperandForm kind}
    {accumulator after : SafeInt kind} :
    (Step.operate operator form).run accumulator = .ok ⟨kind, after⟩ ↔
      operator.availableFor kind = true ∧ operator.applyForm accumulator form = after := by
  unfold Step.run
  by_cases available : operator.availableFor kind = true
  · simp [available]
  · simp [available]

/-- A step of a script of operators, as it is written. -/
inductive Instruction (kind : IntKind) where
  | operate (operator : Operator) (form : OperandForm kind)
  | operateAfter (operator : Operator) (writing : Writing) (left : SafeInt kind)
  | increment
  | decrement
  | incrementDecrement
  | decrementIncrement

namespace Instruction

def move : Instruction kind → Move kind
  | operate operator form => .step (.operate operator form)
  | operateAfter operator writing left => .operateAfter operator writing left
  | increment => .step .increment
  | decrement => .step .decrement
  | incrementDecrement => .step .incrementDecrement
  | decrementIncrement => .step .decrementIncrement

/-- The assignment of the accumulator plus one. -/
def addOne (kind : IntKind) : Operation kind :=
  OperandForm.operation .add (.assignWord (Word.one kind))

/-- The assignment of the accumulator minus one. -/
def subtractOne (kind : IntKind) : Operation kind :=
  OperandForm.operation .sub (.assignWord (Word.one kind))

theorem available_addOne : (addOne kind).operator.availableFor kind = true := rfl

theorem available_subtractOne : (subtractOne kind).operator.availableFor kind = true := rfl

/-- The operations that an instruction means, one after the other. -/
def operations : Instruction kind → List (Operation kind)
  | operate operator form => [form.operation operator]
  | operateAfter operator _ left => [.accumulatorSecond operator left]
  | increment => [addOne kind]
  | decrement => [subtractOne kind]
  | incrementDecrement => [addOne kind, subtractOne kind]
  | decrementIncrement => [subtractOne kind, addOne kind]

end Instruction

/-- A script leads from one accumulator to another if each of its moves runs and keeps the kind. -/
inductive Runs : List (Move kind) → SafeInt kind → SafeInt kind → Prop where
  | done {value : SafeInt kind} : Runs [] value value
  | next {move : Move kind} {moves : List (Move kind)} {value after last : SafeInt kind}
      (ran : move.run value = .ok ⟨kind, after⟩) (later : Runs moves after last) :
      Runs (move :: moves) value last

theorem runs_nil_iff {value last : SafeInt kind} : Runs [] value last ↔ last = value := by
  constructor
  · intro runs
    cases runs
    rfl
  · rintro rfl
    exact .done

theorem runs_cons_iff {move : Move kind} {moves : List (Move kind)} {value last : SafeInt kind} :
    Runs (move :: moves) value last ↔
      ∃ after, move.run value = .ok ⟨kind, after⟩ ∧ Runs moves after last := by
  constructor
  · intro runs
    cases runs with
    | next ran later => exact ⟨_, ran, later⟩
  · rintro ⟨after, ran, later⟩
    exact .next ran later

theorem Instruction.run_iff (instruction : Instruction kind) (value after : SafeInt kind) :
    instruction.move.run value = .ok ⟨kind, after⟩ ↔
      Operation.AllAvailable instruction.operations ∧
        after = Operation.applyAll instruction.operations value := by
  cases instruction with
  | operate operator form =>
      simp only [operations, Operation.AllAvailable, List.forall_mem_singleton,
        operator_operation]
      refine run_operate_iff.trans (and_congr_right fun _ => ?_)
      rw [applyForm_eq_apply]
      exact eq_comm
  | operateAfter operator writing left =>
      simp only [operations, Operation.AllAvailable, List.forall_mem_singleton]
      refine run_operate_iff.trans (and_congr_right fun _ => ?_)
      rw [applyForm_writing]
      exact eq_comm
  | increment | decrement | incrementDecrement | decrementIncrement =>
      refine ok_eq_ok_iff.trans (and_iff_right ?_).symm
      simp [operations, Operation.AllAvailable, available_addOne, available_subtractOne]

/-- A script of operators leads to exactly one accumulator, if its kind has all of its operators,
and to none otherwise.  The accumulator is what the operations between values give, whatever the
forms in which they are written. -/
theorem runs_script_iff (script : List (Instruction kind)) (start last : SafeInt kind) :
    Runs (script.map Instruction.move) start last ↔
      Operation.AllAvailable (script.flatMap Instruction.operations) ∧
        last = Operation.applyAll (script.flatMap Instruction.operations) start := by
  induction script generalizing start with
  | nil =>
      rw [List.map_nil, List.flatMap_nil, runs_nil_iff]
      exact (and_iff_right fun _ member => nomatch member).symm
  | cons instruction script inductionHypothesis =>
      rw [List.map_cons, List.flatMap_cons, runs_cons_iff, Operation.applyAll_append,
        Operation.AllAvailable, List.forall_mem_append]
      constructor
      · rintro ⟨after, ran, later⟩
        rcases (instruction.run_iff start after).mp ran with ⟨available, rfl⟩
        rcases (inductionHypothesis _).mp later with ⟨laterAvailable, same⟩
        exact ⟨⟨available, laterAvailable⟩, same⟩
      · rintro ⟨⟨available, laterAvailable⟩, same⟩
        refine ⟨_, (instruction.run_iff start _).mpr ⟨available, rfl⟩, ?_⟩
        exact (inductionHypothesis _).mpr ⟨laterAvailable, same⟩

/-- A word on the left is the minuend. -/
example :
    let three : SafeInt .i8 := ofWord ⟨3, by decide⟩
    Operator.sub.applyForm three (.wordOnLeft ⟨10, by decide⟩) = ofWord ⟨7, by decide⟩ ∧
      Operator.sub.applyForm three (.word ⟨10, by decide⟩) = ofWord ⟨-7, by decide⟩ := by
  decide

end SafeInt
end Assurance
