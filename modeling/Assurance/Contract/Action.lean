import Assurance.Violation.Diagnostic

namespace Assurance

/-!
# Actions

An action takes a state to an outcome and the next state.  It returns a value,
raises a payload, or aborts.  A raised payload passes through the rest of the
program until something takes it; an abort ends everything at once, and not even
clean-up runs after it.  Whatever the outcome, the changes made to the state
stay.
-/

/-- What is raised. -/
inductive Payload where
  /-- The record of a violation, raised by a handler. -/
  | info (info : Info)
  /-- The end of a program that is ended by raising. -/
  | violation (violation : Violation)
  /-- Something that has nothing to do with contracts. -/
  | foreign (text : String)
  /-- A step that cannot be carried out. -/
  | malformed
deriving DecidableEq, Repr

/-- How an action ends. -/
inductive Outcome (α : Type) where
  | returned (value : α)
  | raised (payload : Payload)
  | aborted
deriving DecidableEq, Repr

/-- What takes a state to an outcome and the next state. -/
def Action (σ α : Type) : Type :=
  σ → Outcome α × σ

namespace Action

variable {σ τ α β : Type}

/-- Do nothing and return a value. -/
def done (value : α) : Action σ α := fun state => (.returned value, state)

/-- Go on with the returned value; every other outcome is kept. -/
def followedBy (first : Action σ α) (next : α → Action σ β) : Action σ β := fun state =>
  match first state with
  | (.returned value, after) => next value after
  | (.raised payload, after) => (.raised payload, after)
  | (.aborted, after) => (.aborted, after)

instance : Monad (Action σ) where
  pure := done
  bind := followedBy

@[simp] theorem pure_apply (value : α) (state : σ) :
    (pure value : Action σ α) state = (.returned value, state) := rfl

theorem bind_apply (first : Action σ α) (next : α → Action σ β) (state : σ) :
    (first >>= next) state = first.followedBy next state := rfl

@[simp] theorem pure_bind_eq (value : α) (next : α → Action σ β) :
    ((pure value : Action σ α) >>= next) = next value := rfl

theorem bind_assoc_eq {γ : Type} (first : Action σ α) (second : α → Action σ β)
    (third : β → Action σ γ) :
    first >>= second >>= third = first >>= fun value => second value >>= third := by
  funext state
  simp only [bind_apply, followedBy]
  rcases first state with ⟨outcome, after⟩
  cases outcome <;> rfl

def raise (payload : Payload) : Action σ α := fun state => (.raised payload, state)

def abort : Action σ α := fun state => (.aborted, state)

def read (view : σ → α) : Action σ α := fun state => (.returned (view state), state)

def update (change : σ → σ) : Action σ Unit := fun state => (.returned (), change state)

/-- An action whose raised payload is returned instead. -/
def attempt (action : Action σ α) : Action σ (Except Payload α) := fun state =>
  match action state with
  | (.returned value, after) => (.returned (.ok value), after)
  | (.raised payload, after) => (.returned (.error payload), after)
  | (.aborted, after) => (.aborted, after)

/-- Change the state once an action has returned or raised; an abort leaves no time for it. -/
def cleaningUp (action : Action σ α) (change : σ → σ) : Action σ α := fun state =>
  match action state with
  | (.returned value, after) => (.returned value, change after)
  | (.raised payload, after) => (.raised payload, change after)
  | (.aborted, after) => (.aborted, after)

/-- An action on the first part of a state. -/
def onFirst (action : Action σ α) : Action (σ × τ) α := fun (first, second) =>
  let (outcome, after) := action first
  (outcome, (after, second))

/-- An action on a state with a part of its own, given the start of that part.  The final value of
the part is returned beside the outcome, whatever that is. -/
def withOwn (own : τ) (action : Action (σ × τ) α) : σ → (Outcome α × τ) × σ := fun state =>
  let (outcome, (after, left)) := action (state, own)
  ((outcome, left), after)

end Action

end Assurance
