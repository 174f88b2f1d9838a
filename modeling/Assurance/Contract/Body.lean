import Assurance.Contract.Check

namespace Assurance

/-!
# Bodies under contract

A condition attached to a function is evaluated when the function is entered or
when it is left.  Attaching one puts a new layer around the body: an entry layer
checks first and then runs what is inside; an exit layer runs what is inside to
its end, however it is left, and checks afterwards with the result at hand.

The kinds of condition and block are parameters.  Actions in their place make a
body that runs; texts make one that is written down.
-/

/-- A condition attached to a function. -/
inductive Clause (ε ξ : Type) where
  | entry (tier : Tier) (condition : ε)
  | exit (tier : Tier) (condition : ξ)
deriving DecidableEq, Repr

/-- The body of a function with the conditions attached to it so far. -/
inductive Body (ε ξ β : Type) where
  /-- The block that was written. -/
  | block (block : β)
  /-- Check, then go on inside. -/
  | entry (tier : Tier) (condition : ε) (inner : Body ε ξ β)
  /-- Run what is inside, then check. -/
  | exit (inner : Body ε ξ β) (tier : Tier) (condition : ξ)
deriving DecidableEq, Repr

namespace Body

variable {ε ξ β : Type}

/-- The body with one more condition attached. -/
def attach (body : Body ε ξ β) : Clause ε ξ → Body ε ξ β
  | .entry tier condition => .entry tier condition body
  | .exit tier condition => .exit body tier condition

/-- The body with conditions attached in the order in which they are written, the first one
innermost. -/
def attachAll (body : Body ε ξ β) (clauses : List (Clause ε ξ)) : Body ε ξ β :=
  clauses.foldl attach body

end Body

/-- How a block is left. -/
inductive Completion (ρ : Type) where
  /-- By the value at its end. -/
  | tail (value : ρ)
  /-- By an early return out of the function. -/
  | early (value : ρ)
deriving DecidableEq, Repr

/-- The value with which a function that is left this way returns. -/
def Completion.value {ρ : Type} : Completion ρ → ρ
  | .tail value => value
  | .early value => value

namespace Body

variable {σ ρ : Type}

/-- Run a body.  An exit layer calls what is inside as a function of its own, so an early return
ends there too. -/
def run (check : Tier → Family → Bool → Action σ Unit) :
    Body (Action σ Bool) (ρ → Action σ Bool) (Action σ (Completion ρ)) → Action σ (Completion ρ)
  | .block written => written
  | .entry tier condition inner => do
      let holds ← condition
      check tier .precondition holds
      run check inner
  | .exit inner tier condition => do
      let completion ← run check inner
      let result := completion.value
      let holds ← condition result
      check tier .postcondition holds
      pure (.tail result)

def call (check : Tier → Family → Bool → Action σ Unit)
    (body : Body (Action σ Bool) (ρ → Action σ Bool) (Action σ (Completion ρ))) : Action σ ρ := do
  let completion ← run check body
  pure completion.value

end Body

end Assurance
