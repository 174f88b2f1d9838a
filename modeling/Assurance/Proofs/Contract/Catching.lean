import Assurance.Proofs.Contract.Bracketing
import Assurance.Proofs.Contract.Demand
import Assurance.Proofs.Contract.Layers

namespace Assurance

/-!
# Blocks that take the first violation

A block installs the raising handler and takes the record that is raised.  All of
this happens at run time, through one slot for the whole program and through
unwinding.  Here it is compared with a reading of the program text alone: a routine
ends at its first failing check, an inner block turns that end into a result and
goes on, and a panic ends every block around it.  The reading mentions no slot, no
handler, no unwinding and no configuration that would let a check go on.

What an inner block has taken is handed to the rest of the routine, which may go on
differently for each result.  So a violation that a block takes is one that no
other block has taken.

Main statement: `Routine.catching_isolates_first`.
-/

variable {η : Type}

/-- A demand with the configuration that it is checked under. -/
structure Attempt where
  config : Config
  demand : Demand
deriving DecidableEq, Repr

namespace Attempt

def Fails (attempt : Attempt) : Prop :=
  attempt.demand.fails attempt.config.level = true

instance (attempt : Attempt) : Decidable attempt.Fails :=
  inferInstanceAs (Decidable (_ = true))

/-- The event that is logged for the attempt, should it fail. -/
def event (attempt : Attempt) : Entry η :=
  .event attempt.config.severity attempt.demand.info

end Attempt

/-- A payload that is not the record of a violation. -/
structure Panic where
  payload : Payload
  foreign : ∀ info, payload ≠ .info info

/-- A program of checks, panics and blocks that take the first violation.  What a block has taken is
known to what follows it. -/
inductive Routine where
  | done
  | check (attempt : Attempt) (rest : Routine)
  | panic (cause : Panic)
  | catching (inner : Routine) (rest : Option Info → Routine)

namespace Machine

/-- The machine with one more event for each of some failed attempts. -/
def observing (machine : Machine η) (found : List Attempt) : Machine η :=
  { machine with log := machine.log ++ found.map Attempt.event }

@[simp] theorem observing_nil (machine : Machine η) : machine.observing [] = machine := by
  simp [observing]

theorem observing_observing (machine : Machine η) (first second : List Attempt) :
    (machine.observing first).observing second = machine.observing (first ++ second) := by
  simp [observing]

end Machine

namespace Routine

open Assurance.Action

def run (program : Program η) : Routine → Action (Machine η) Unit
  | .done => pure ()
  | .check attempt rest => do
      attempt.demand.run program attempt.config
      rest.run program
  | .panic cause => raise cause.payload
  | .catching inner rest => do
      let taken ← Action.catching (inner.run program)
      (rest taken).run program

/-- How a routine ends. -/
inductive Ending where
  | finished
  | violated (info : Info)
  | panicked (cause : Panic)

/-- What a block around a routine with some ending has taken, if the block comes to an end. -/
inductive Ending.Leaves : Ending → Option Info → Prop where
  | nothing : Leaves .finished none
  | record (info : Info) : Leaves (.violated info) (some info)

/-- How a routine ends, read off its text, with the failed attempts that blocks have taken by then,
the block around the whole routine included. -/
inductive Ends : Routine → List Attempt → Ending → Prop where
  | finished : Ends .done [] .finished
  | passes {attempt : Attempt} {rest : Routine} {found : List Attempt} {ending : Ending}
      (passes : ¬ attempt.Fails) (onward : Ends rest found ending) :
      Ends (.check attempt rest) found ending
  | violated {attempt : Attempt} (fails : attempt.Fails) (rest : Routine) :
      Ends (.check attempt rest) [attempt] (.violated attempt.demand.info)
  | panicked (cause : Panic) : Ends (.panic cause) [] (.panicked cause)
  | goesOn {inner : Routine} {rest : Option Info → Routine} {inside onward : List Attempt}
      {ended ending : Ending} {taken : Option Info} (ends : Ends inner inside ended)
      (leaves : ended.Leaves taken) (continued : Ends (rest taken) onward ending) :
      Ends (.catching inner rest) (inside ++ onward) ending
  | escapes {inner : Routine} {inside : List Attempt} {cause : Panic}
      (ends : Ends inner inside (.panicked cause)) (rest : Option Info → Routine) :
      Ends (.catching inner rest) inside (.panicked cause)

/-- Every routine ends in some way. -/
theorem exists_ends (routine : Routine) : ∃ found ending, Ends routine found ending := by
  induction routine with
  | done => exact ⟨[], .finished, .finished⟩
  | check attempt rest inductionHypothesis =>
      rcases inductionHypothesis with ⟨found, ending, onward⟩
      by_cases fails : attempt.Fails
      · exact ⟨[attempt], _, .violated fails rest⟩
      · exact ⟨found, ending, .passes fails onward⟩
  | panic cause => exact ⟨[], _, .panicked cause⟩
  | catching inner rest innerHypothesis restHypothesis =>
      rcases innerHypothesis with ⟨inside, ended, ends⟩
      cases ended with
      | finished =>
          rcases restHypothesis none with ⟨onward, ending, continued⟩
          exact ⟨inside ++ onward, ending, .goesOn ends .nothing continued⟩
      | violated info =>
          rcases restHypothesis (some info) with ⟨onward, ending, continued⟩
          exact ⟨inside ++ onward, ending, .goesOn ends (.record info) continued⟩
      | panicked cause => exact ⟨inside, _, .escapes ends rest⟩

/-- A violation that ends a routine is its last failed attempt, and its record is not tagged. -/
theorem Ends.last_of_violated {routine : Routine} {found : List Attempt} {info : Info}
    (ends : Ends routine found (.violated info)) :
    ∃ earlier attempt, found = earlier ++ [attempt] ∧ attempt.Fails ∧
      info = ⟨attempt.demand.tier, attempt.demand.family, attempt.demand.location, false⟩ := by
  generalize reached : Ending.violated info = ending at ends
  induction ends with
  | finished => cases reached
  | passes _ _ inductionHypothesis => exact inductionHypothesis reached
  | @violated attempt fails rest =>
      cases reached
      exact ⟨[], attempt, rfl, fails, rfl⟩
  | panicked cause => cases reached
  | @goesOn _ _ inside _ _ _ _ _ _ _ _ inductionHypothesis =>
      rcases inductionHypothesis reached with ⟨earlier, attempt, split, fails, same⟩
      exact ⟨inside ++ earlier, attempt, by rw [split, List.append_assoc], fails, same⟩
  | escapes _ _ => cases reached

/-! ## Running a routine -/

/-- The outcome of a routine under the raising handler. -/
def Ending.outcome : Ending → Outcome Unit
  | .finished => .returned ()
  | .violated info => .raised (.info info)
  | .panicked cause => .raised cause.payload

/-- The outcome of a block around a routine. -/
def Ending.caught : Ending → Outcome (Option Info)
  | .finished => .returned none
  | .violated info => .returned (some info)
  | .panicked cause => .raised cause.payload

theorem takeInfo_panic (cause : Panic) :
    (takeInfo (some cause.payload) : Action (Machine η) (Option Info)) = raise cause.payload := by
  rcases cause with ⟨payload, foreign⟩
  cases payload with
  | info info => exact absurd rfl (foreign info)
  | violation violation => rfl
  | foreign text => rfl
  | malformed => rfl

/-- A block puts back the handler it found and turns the end of its inside into a result. -/
theorem catching_apply {action : Action (Machine η) Unit} {machine : Machine η}
    {found : List Attempt} {ending : Ending}
    (ran : action (machine.installing .raising) =
      (ending.outcome, (machine.installing .raising).observing found)) :
    Action.catching action machine = (ending.caught, machine.observing found) := by
  have cleaned : Action.catching action machine =
      (Action.cleaningUp _ fun left => left.installing machine.slot)
        (machine.installing .raising) := rfl
  rw [cleaned]
  simp only [cleaningUp, bind_apply, followedBy, attempt, ran]
  cases ending with
  | finished => rfl
  | violated info => rfl
  | panicked cause =>
      simp only [Ending.outcome, takeInfo_panic]
      rfl

theorem run_attempt_of_fails {program : Program η} {attempt : Attempt} (fails : attempt.Fails)
    {machine : Machine η} (raising : machine.slot = .raising) :
    attempt.demand.run program attempt.config machine =
      (.raised (.info attempt.demand.info), machine.observing [attempt]) := by
  rw [Demand.run_of_fails fails, Program.violated_apply, raising]
  rfl

/-- Under the raising handler a routine runs as it reads. -/
theorem run_of_ends {program : Program η} {routine : Routine} {found : List Attempt}
    {ending : Ending} (ends : Ends routine found ending) {machine : Machine η}
    (raising : machine.slot = .raising) :
    routine.run program machine = (ending.outcome, machine.observing found) := by
  induction ends generalizing machine with
  | finished =>
      rw [Machine.observing_nil, run]
      rfl
  | @passes attempt rest found ending passes onward inductionHypothesis =>
      have quiet : attempt.demand.fails attempt.config.level = false := by
        simpa [Attempt.Fails] using passes
      rw [run, Demand.run_of_passes quiet, pure_bind_eq]
      exact inductionHypothesis raising
  | @violated attempt fails rest =>
      rw [run, bind_apply, followedBy, run_attempt_of_fails fails raising]
      rfl
  | panicked cause =>
      rw [Machine.observing_nil, run]
      rfl
  | @goesOn inner rest inside onward ended ending taken ends leaves continued innerRuns restRuns =>
      have comesToAnEnd : ended.caught = .returned taken := by
        cases leaves <;> rfl
      have caught : Action.catching (inner.run program) machine =
          (.returned taken, machine.observing inside) := by
        rw [catching_apply (innerRuns rfl), comesToAnEnd]
      have continues : (rest taken).run program (machine.observing inside) =
          (ending.outcome, (machine.observing inside).observing onward) := restRuns raising
      rw [run, bind_apply_of_returned caught]
      exact continues.trans (by rw [Machine.observing_observing])
  | @escapes inner inside cause ends rest innerRuns =>
      rw [run, bind_apply, followedBy, catching_apply (innerRuns rfl)]
      rfl

theorem catching_of_ends {routine : Routine} {found : List Attempt} {ending : Ending}
    (ends : Ends routine found ending) (program : Program η) (machine : Machine η) :
    Action.catching (routine.run program) machine = (ending.caught, machine.observing found) :=
  catching_apply (run_of_ends ends rfl)

/-- Every routine ends in exactly one of three ways, and a block around it tells which.  If it ends
at a violation, the block returns the untagged record of the check that failed; if it comes to its
end, the block returns nothing; if it panics, the payload leaves the block as it is.  In all three
cases the block leaves nothing behind but one event for each violation that it or a block inside it
has taken, the own one last, whatever the configurations of the checks are, whatever handlers the
program has and whichever is installed around the block. -/
theorem catching_isolates_first (program : Program η) (routine : Routine) :
    (∃ found ending, Ends routine found ending) ∧
    (∀ found info, Ends routine found (.violated info) →
      (∃ earlier attempt, found = earlier ++ [attempt] ∧ attempt.Fails ∧
        info = ⟨attempt.demand.tier, attempt.demand.family, attempt.demand.location, false⟩) ∧
      ∀ machine : Machine η, Action.catching (routine.run program) machine =
        (.returned (some info), { machine with log := machine.log ++ found.map Attempt.event })) ∧
    (∀ found, Ends routine found .finished →
      ∀ machine : Machine η, Action.catching (routine.run program) machine =
        (.returned none, { machine with log := machine.log ++ found.map Attempt.event })) ∧
    ∀ found cause, Ends routine found (.panicked cause) →
      ∀ machine : Machine η, Action.catching (routine.run program) machine =
        (.raised cause.payload, { machine with log := machine.log ++ found.map Attempt.event }) := by
  refine ⟨exists_ends routine, ?_, ?_, ?_⟩
  · intro found info ends
    exact ⟨ends.last_of_violated, catching_of_ends ends program⟩
  · intro found ends
    exact catching_of_ends ends program
  · intro found cause ends
    exact catching_of_ends ends program

/-- An inner block takes a violation; then a check passes, and one fails that may go on and is
followed by a panic.  The outer block takes the second violation, and the panic is never raised.  If
nothing follows the inner block, the outer one takes nothing; if the panic follows it at once, the
payload leaves the outer block. -/
theorem catching_isolates_first_nested :
    let place (line : Nat) : Location := ⟨"a.rs", "run", line, 1⟩
    let inside : Attempt := ⟨.ofLevel .default, ⟨.default, .assertion, false, place 1⟩⟩
    let passing : Attempt := ⟨.ofLevel .default, ⟨.audit, .assertion, false, place 2⟩⟩
    let outside : Attempt := ⟨⟨.audit, true, true⟩, ⟨.audit, .precondition, false, place 3⟩⟩
    let later : Panic := ⟨.foreign "later", nofun⟩
    let before (rest : Routine) : Routine := .catching (.check inside .done) fun
      | none => .panic later
      | some _ => rest
    let program : Program Empty := ⟨.ofLevel .disabled, nofun⟩
    let block (rest : Routine) := Action.catching ((before rest).run program)
    let machine : Machine Empty := Machine.initial ⟨none, none, false⟩
    let taken : Entry Empty := .event .error ⟨.default, .assertion, place 1, false⟩
    block (.check passing (.check outside (.panic later))) machine =
        (.returned (some ⟨.audit, .precondition, place 3, false⟩),
          { machine with
            log := [taken, .event .warning ⟨.audit, .precondition, place 3, false⟩] }) ∧
      block .done machine = (.returned none, { machine with log := [taken] }) ∧
      block (.panic later) machine =
        (.raised (.foreign "later"), { machine with log := [taken] }) := by
  intro place inside passing outside later before program block machine taken
  have ends : ∀ {rest : Routine} {found : List Attempt} {ending : Ending},
      Ends rest found ending → Ends (before rest) ([inside] ++ found) ending := by
    intro rest found ending continued
    exact .goesOn (.violated (by decide) .done) (.record _) continued
  refine ⟨?_, ?_, ?_⟩
  · have violated : Ends (.check passing (.check outside (.panic later))) [outside]
        (.violated outside.demand.info) :=
      .passes (by decide) (.violated (by decide) (.panic later))
    exact ((catching_isolates_first program _).2.1 _ _ (ends violated)).2 machine
  · exact (catching_isolates_first program _).2.2.1 _ (ends .finished) machine
  · exact (catching_isolates_first program _).2.2.2 _ _ (ends (.panicked later)) machine

end Routine

end Assurance
