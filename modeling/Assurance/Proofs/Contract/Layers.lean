import Assurance.Contract.Body
import Assurance.Proofs.Contract.Escalation

namespace Assurance

/-!
# The order of layers

Conditions are attached to a function one after the other, each as a layer around
all earlier ones.  A layer for the entry runs before what is inside it and a layer
for the exit behind it, so calls evaluate the conditions for the entry from the
last attached to the first, and those for the exit from the first to the last,
with the block between them.  How the block is left makes no difference: an early
return ends at the innermost layer for the exit, and outside of it there is only
a value.

A call is thereby a plain sequence of steps, and a step that does not return is
the last one.

Main statements: `call_attachAll`, `stops_call_of_entry`, `stops_call_of_exit`.
-/

variable {η σ τ α β ρ : Type}

namespace Action

/-- Actions one after the other. -/
def inSequence : List (Action σ Unit) → Action σ Unit
  | [] => pure ()
  | action :: actions => do
      action
      inSequence actions

theorem inSequence_append (first second : List (Action σ Unit)) :
    inSequence (first ++ second) = (do inSequence first; inSequence second) := by
  induction first with
  | nil => rfl
  | cons action actions inductionHypothesis =>
      rw [List.cons_append, inSequence, inductionHypothesis, inSequence, bind_assoc_eq]

/-- From a given state an action ends in a given way, which is not a return, and leaves a given
state behind. -/
def Stops (action : Action σ α) (start : σ) : Outcome β → σ → Prop
  | .returned _, _ => False
  | .raised payload, left => action start = (.raised payload, left)
  | .aborted, left => action start = (.aborted, left)

theorem stops_of_apply {action : Action σ α} {start left : σ} {outcome : Outcome α}
    (ran : action start = (outcome, left)) (unreturned : ∀ value, outcome ≠ .returned value) :
    action.Stops start outcome left := by
  cases outcome with
  | returned value => exact unreturned value rfl
  | raised payload => exact ran
  | aborted => exact ran

/-- Nothing runs behind an action that does not return. -/
theorem Stops.bind {action : Action σ α} {start left : σ} {outcome : Outcome β}
    (stops : action.Stops start outcome left) {γ : Type} (next : α → Action σ γ) :
    (action >>= next).Stops start outcome left := by
  cases outcome with
  | returned value => exact stops
  | raised payload =>
      show followedBy action next start = _
      rw [followedBy, show action start = _ from stops]
  | aborted =>
      show followedBy action next start = _
      rw [followedBy, show action start = _ from stops]

theorem bind_apply_of_returned {action : Action σ α} {start reached : σ} {value : α}
    (ran : action start = (.returned value, reached)) (next : α → Action σ β) :
    (action >>= next) start = next value reached := by
  rw [bind_apply, followedBy, ran]

theorem Stops.after {action : Action σ α} {start reached left : σ} {value : α}
    (ran : action start = (.returned value, reached)) {γ : Type} {next : α → Action σ γ}
    {outcome : Outcome β} (stops : (next value).Stops reached outcome left) :
    (action >>= next).Stops start outcome left := by
  have continued := bind_apply_of_returned ran next
  cases outcome with
  | returned value => exact stops
  | raised payload => exact continued.trans stops
  | aborted => exact continued.trans stops

/-- In a sequence, nothing runs behind an action that does not return. -/
theorem stops_inSequence {earlier later : List (Action σ Unit)} {action : Action σ Unit}
    {start reached left : σ} (ran : inSequence earlier start = (.returned (), reached))
    {outcome : Outcome β} (stops : action.Stops reached outcome left) :
    (inSequence (earlier ++ action :: later)).Stops start outcome left := by
  rw [inSequence_append]
  exact .after ran (stops.bind _)

end Action

open Assurance.Action

section checks

variable (check : Tier → Family → Bool → Action σ Unit)

/-- What a condition makes of the entry into its function. -/
def Clause.entryChecks : Clause (Action σ Bool) (ρ → Action σ Bool) → List (Action σ Unit)
  | .entry tier condition => [condition >>= check tier .precondition]
  | .exit _ _ => []

/-- What a condition makes of the exit from its function with some value. -/
def Clause.exitChecks (value : ρ) :
    Clause (Action σ Bool) (ρ → Action σ Bool) → List (Action σ Unit)
  | .entry _ _ => []
  | .exit tier condition => [condition value >>= check tier .postcondition]

/-- The checks on entry: the conditions from the last attached to the first. -/
def entryChecks (clauses : List (Clause (Action σ Bool) (ρ → Action σ Bool))) :
    List (Action σ Unit) :=
  clauses.reverse.flatMap (Clause.entryChecks check)

/-- The checks on exit with some value: the conditions from the first attached to the last. -/
def exitChecks (value : ρ) (clauses : List (Clause (Action σ Bool) (ρ → Action σ Bool))) :
    List (Action σ Unit) :=
  clauses.flatMap (Clause.exitChecks check value)

theorem entryChecks_cons (clause : Clause (Action σ Bool) (ρ → Action σ Bool))
    (clauses : List (Clause (Action σ Bool) (ρ → Action σ Bool))) :
    entryChecks check (clause :: clauses) =
      entryChecks check clauses ++ clause.entryChecks check := by
  simp only [entryChecks, List.reverse_cons, List.flatMap_append, List.flatMap_singleton]

theorem exitChecks_cons (value : ρ) (clause : Clause (Action σ Bool) (ρ → Action σ Bool))
    (clauses : List (Clause (Action σ Bool) (ρ → Action σ Bool))) :
    exitChecks check value (clause :: clauses) =
      clause.exitChecks check value ++ exitChecks check value clauses :=
  List.flatMap_cons

theorem entryChecks_append (inner outer : List (Clause (Action σ Bool) (ρ → Action σ Bool))) :
    entryChecks check (inner ++ outer) = entryChecks check outer ++ entryChecks check inner := by
  simp only [entryChecks, List.reverse_append, List.flatMap_append]

theorem exitChecks_append (value : ρ)
    (inner outer : List (Clause (Action σ Bool) (ρ → Action σ Bool))) :
    exitChecks check value (inner ++ outer) =
      exitChecks check value inner ++ exitChecks check value outer :=
  List.flatMap_append

end checks

namespace Body

variable {check : Tier → Family → Bool → Action σ Unit}

/-! ## Calls -/

theorem call_block (written : Action σ (Completion ρ)) :
    (Body.block written).call check = (do
      let completion ← written
      pure completion.value) := rfl

/-- One more layer puts its check before or behind everything else. -/
theorem call_attach (body : Body (Action σ Bool) (ρ → Action σ Bool) (Action σ (Completion ρ)))
    (clause : Clause (Action σ Bool) (ρ → Action σ Bool)) :
    (body.attach clause).call check = (do
      inSequence (clause.entryChecks check)
      let value ← body.call check
      inSequence (clause.exitChecks check value)
      pure value) := by
  cases clause with
  | entry tier condition =>
      simp only [attach, call, run, Clause.entryChecks, Clause.exitChecks, inSequence,
        bind_assoc_eq, pure_bind_eq]
  | exit tier condition =>
      simp only [attach, call, run, Clause.entryChecks, Clause.exitChecks, inSequence,
        bind_assoc_eq, pure_bind_eq, Completion.value]

theorem call_attachAll_eq
    (body : Body (Action σ Bool) (ρ → Action σ Bool) (Action σ (Completion ρ)))
    (clauses : List (Clause (Action σ Bool) (ρ → Action σ Bool))) :
    (body.attachAll clauses).call check = (do
      inSequence (entryChecks check clauses)
      let value ← body.call check
      inSequence (exitChecks check value clauses)
      pure value) := by
  -- The first clause is the innermost layer, so the induction changes the body.
  induction clauses generalizing body with
  | nil =>
      funext start
      show body.call check start = followedBy (body.call check) pure start
      rw [followedBy]
      rcases body.call check start with ⟨outcome, left⟩
      cases outcome <;> rfl
  | cons clause clauses inductionHypothesis =>
      show ((body.attach clause).attachAll clauses).call check = _
      simp only [inductionHypothesis, call_attach, entryChecks_cons, exitChecks_cons,
        inSequence_append, bind_assoc_eq, pure_bind_eq]

/-- A call evaluates the conditions for the entry from the last attached to the first, then runs the
block, and then evaluates the conditions for the exit from the first to the last with the value of
the block, however the block was left, and returns that value. -/
theorem call_attachAll (written : Action σ (Completion ρ))
    (clauses : List (Clause (Action σ Bool) (ρ → Action σ Bool))) :
    ((Body.block written).attachAll clauses).call check = (do
      inSequence (entryChecks check clauses)
      let completion ← written
      inSequence (exitChecks check completion.value clauses)
      pure completion.value) := by
  simp only [call_attachAll_eq, call_block, bind_assoc_eq, pure_bind_eq]

/-- A call ends with a check on entry that does not return. -/
theorem stops_call_of_entry {written : Action σ (Completion ρ)}
    {inner outer : List (Clause (Action σ Bool) (ρ → Action σ Bool))} {tier : Tier}
    {condition : Action σ Bool} {start reached left : σ}
    (ran : inSequence (entryChecks check outer) start = (.returned (), reached))
    {outcome : Outcome β}
    (stops : (condition >>= check tier .precondition).Stops reached outcome left) :
    (((Body.block written).attachAll (inner ++ .entry tier condition :: outer)).call check).Stops
      start outcome left := by
  rw [call_attachAll, entryChecks_append, entryChecks_cons, List.append_assoc]
  exact (stops_inSequence ran stops).bind _

/-- A call ends with a check on exit that does not return. -/
theorem stops_call_of_exit {written : Action σ (Completion ρ)}
    {inner outer : List (Clause (Action σ Bool) (ρ → Action σ Bool))} {tier : Tier}
    {condition : ρ → Action σ Bool} {start entered finished reached left : σ}
    {completion : Completion ρ}
    (enters : inSequence (entryChecks check (inner ++ .exit tier condition :: outer)) start =
      (.returned (), entered))
    (runs : written entered = (.returned completion, finished))
    (ran : inSequence (exitChecks check completion.value inner) finished =
      (.returned (), reached))
    {outcome : Outcome β}
    (stops : (condition completion.value >>= check tier .postcondition).Stops reached
      outcome left) :
    (((Body.block written).attachAll (inner ++ .exit tier condition :: outer)).call check).Stops
      start outcome left := by
  rw [call_attachAll]
  refine .after enters (.after runs ?_)
  rw [exitChecks_append, exitChecks_cons]
  exact (stops_inSequence ran stops).bind _

end Body

namespace Program

/-- A condition fails at a live tier, and the handler of the violation ends in some way other than by
returning. -/
structure EndsAt (program : Program η) (tier : Tier) (family : Family) (location : Location)
    (condition : Action (Machine η × τ) Bool) (start : Machine η × τ) (outcome : Outcome Unit)
    (left : Machine η × τ) : Prop where
  active : tier.isActive program.build.level = true
  handled : ∃ machine, condition start = (.returned false, (machine, left.2)) ∧
    program.handle machine.slot (.fresh tier family location)
      (machine.logging (.event program.build.severity (.fresh tier family location))) =
        (outcome, left.1)
  unreturned : outcome ≠ .returned ()

/-- A check ends as its handler does, if the handler does not return. -/
theorem EndsAt.stops {program : Program η} {tier : Tier} {family : Family} {location : Location}
    {condition : Action (Machine η × τ) Bool} {start left : Machine η × τ} {outcome : Outcome Unit}
    (ends : program.EndsAt tier family location condition start outcome left) :
    (condition >>= fun holds =>
      (program.checkBuild tier family holds location).onFirst).Stops start outcome left := by
  rcases ends.handled with ⟨machine, fails, handled⟩
  have checked : program.checkBuild tier family false location machine = (outcome, left.1) :=
    check_apply_of_unreturned ends.active handled ends.unreturned
  refine .after fails (stops_of_apply ?_ fun value returned => ends.unreturned returned)
  show (let (ended, after) := program.checkBuild tier family false location machine
    (ended, (after, left.2))) = _
  rw [checked]

end Program

end Assurance
