import Assurance.Proofs.Attribute.Stacking
import Assurance.Proofs.Contract.Layers
import Mathlib.Data.List.Forall2

namespace Assurance
namespace Attribute

/-!
# The order of conditions under a stack

What a stack of attributes writes is code: statements that make checks, a
statement that names the result, and a closure that is called at once.  Here this
code gets a syntax of its own, which is printed as the tokens of the block that
is read back and run by the rules of the language.  An early return leaves the
nearest closure, and a name stands for a value in what follows its binding and
nowhere else.

Run this way, the layers of a body do what the body does, so the order of its
conditions is the order in which an expanded function evaluates them.

A condition is an expression for a truth value.  It may change the state, raise or
abort, but it does not leave the function that it stands in.

Main statement: `evaluation_order`.
-/

open Source Source.Grammar Assurance.Action

variable {host : HostLanguage}

/-- The family of the checks that an attribute makes. -/
def Kind.family : Kind → Family
  | expects => .precondition
  | ensures => .postcondition

/-- What attributes write in place of a block.  A statement comes with what follows it. -/
inductive Code where
  /-- The block of a function as it was written. -/
  | written (block : Token)
  /-- The name of the result. -/
  | result
  /-- A closure around a block, called at once. -/
  | immediate (body : Code)
  /-- A statement that makes a check. -/
  | check (kind : Kind) (tier : Tier) (condition : List Token) (next : Code)
  /-- A statement that names the result. -/
  | bind (value next : Code)
  /-- Braces around statements and what they end with. -/
  | braces (inner : Code)

/-- What the parts of a function that attributes leave alone do, where the name of the result stands
for a value that a statement gave it, or for no such value. -/
structure Meaning (σ ρ : Type) where
  condition : List Token → Option ρ → Action σ Bool
  block : Token → Option ρ → Action σ (Completion ρ)

namespace Code

/-- The tokens of code in a function with a given result type. -/
def print (type : Option (List Token)) : Code → List Token
  | written block => [block]
  | result => [Token.word "ret"]
  | immediate body =>
      [.group .parenthesis ([Token.mark '|', Token.mark '|'] ++
        typeBehind (Token.operator "->") (annotation? type) ++ body.print type),
       .group .parenthesis []]
  | check kind tier condition next => checkStatement kind tier condition ++ next.print type
  | bind value next =>
      allowImmediateCall ++ [Token.word "let", Token.word "ret"] ++
        typeBehind [Token.mark ':'] (annotation? type) ++ [Token.mark '='] ++ value.print type ++
        [Token.mark ';'] ++ next.print type
  | braces inner => [.group .brace (inner.print type)]

variable {σ ρ : Type} (make : Tier → Family → Bool → Action σ Unit) (meaning : Meaning σ ρ)

/-- Run code, given what it means to make a check.  A closure that is called gives a value, however
it is left; an early return in a statement skips what follows. -/
def run : Code → Option ρ → Action σ (Completion ρ)
  | written block, named => meaning.block block named
  | result, none => Action.raise .malformed
  | result, some value => pure (.tail value)
  | immediate body, named => do
      let completion ← body.run named
      pure (.tail completion.value)
  | check kind tier condition next, named => do
      let holds ← meaning.condition condition named
      make tier kind.family holds
      next.run named
  | bind value next, named => do
      match ← value.run named with
      | .tail bound => next.run (some bound)
      | .early returned => pure (.early returned)
  | braces inner, named => inner.run named

/-- Call a function whose block is given as code. -/
def call (code : Code) : Action σ ρ := do
  let completion ← code.run make meaning none
  pure completion.value

/-- A body as code. -/
def ofBody : Body (List Token) (List Token) Token → Code
  | .block block => written block
  | .entry tier condition inner => braces (check .expects tier condition (ofBody inner))
  | .exit inner tier condition =>
      braces (bind (immediate (ofBody inner)) (check .ensures tier condition result))

/-- The code of a body is printed as the block that the body is read back as. -/
theorem print_ofBody (type : Option (List Token)) (body : Body (List Token) (List Token) Token) :
    (ofBody body).print type = [blockWith false type body] := by
  induction body with
  | block block => rfl
  | entry tier condition inner inductionHypothesis =>
      simp only [ofBody, print, blockWith, entryInner, inductionHypothesis]
  | exit inner tier condition inductionHypothesis =>
      simp only [ofBody, print, blockWith, exitInner, declarationWith, calledAtOnce, closureWith,
        inductionHypothesis, List.append_assoc, List.cons_append, List.nil_append]
      rfl

end Code

namespace Meaning

variable {σ ρ : Type} (meaning : Meaning σ ρ)

/-- What a condition of a body does: for the exit, the name of the result stands for the value at
hand, and for the entry it has none. -/
def clause : Clause (List Token) (List Token) → Clause (Action σ Bool) (ρ → Action σ Bool)
  | .entry tier condition => .entry tier (meaning.condition condition none)
  | .exit tier condition => .exit tier fun value => meaning.condition condition (some value)

/-- What the parts of a body do. -/
def body : Body (List Token) (List Token) Token →
    Body (Action σ Bool) (ρ → Action σ Bool) (Action σ (Completion ρ))
  | .block block => .block (meaning.block block none)
  | .entry tier condition inner => .entry tier (meaning.condition condition none) (body inner)
  | .exit inner tier condition =>
      .exit (body inner) tier fun value => meaning.condition condition (some value)

theorem body_attach (inner : Body (List Token) (List Token) Token)
    (clause : Clause (List Token) (List Token)) :
    meaning.body (inner.attach clause) = (meaning.body inner).attach (meaning.clause clause) := by
  cases clause <;> rfl

theorem body_attachAll (inner : Body (List Token) (List Token) Token)
    (clauses : List (Clause (List Token) (List Token))) :
    meaning.body (inner.attachAll clauses) =
      (meaning.body inner).attachAll (clauses.map meaning.clause) := by
  induction clauses generalizing inner with
  | nil => rfl
  | cons clause clauses inductionHypothesis =>
      show meaning.body ((inner.attach clause).attachAll clauses) = _
      rw [inductionHypothesis, body_attach]
      rfl

end Meaning

namespace Code

variable {σ ρ : Type} {make : Tier → Family → Bool → Action σ Unit} (meaning : Meaning σ ρ)

/-- The code of a body does what the body does. -/
theorem run_ofBody (body : Body (List Token) (List Token) Token) :
    (ofBody body).run make meaning none = (meaning.body body).run make := by
  induction body with
  | block block => rfl
  | entry tier condition inner inductionHypothesis =>
      simp only [ofBody, run, Meaning.body, Body.run, inductionHypothesis, Kind.family]
  | exit inner tier condition inductionHypothesis =>
      -- The closure has turned every completion into a value, so the statement that names the
      -- result never passes on an early return.
      simp only [ofBody, run, Meaning.body, Body.run, inductionHypothesis, Kind.family,
        bind_assoc_eq, pure_bind_eq]

/-- A call of a function whose block is the code of a stack. -/
theorem call_ofBody (block : Token) (clauses : List (Clause (List Token) (List Token))) :
    (ofBody ((Body.block block).attachAll clauses)).call make meaning =
      ((Body.block (meaning.block block none)).attachAll (clauses.map meaning.clause)).call
        make := by
  rw [call, run_ofBody, Meaning.body_attachAll]
  rfl

end Code

/-! ## Stacks that expand -/

theorem functionItem?_of_expandAll {stack : List Contract} {item output : List Token}
    (expands : expandAll host stack item = .ok output) {expanded : FunctionItem}
    (reads : host.functionItem? output = some expanded) :
    ∃ function, host.functionItem? item = some function := by
  cases stack with
  | nil =>
      cases expands
      exact ⟨expanded, reads⟩
  | cons contract stack =>
      cases read : host.functionItem? item with
      | none => exact absurd expands (expandAll_ne_ok read contract stack output)
      | some function => exact ⟨function, rfl⟩

/-- An attribute that expands on a function attaches a condition to it. -/
theorem attaches_of_expand {contract : Contract} {item output : List Token}
    {function : FunctionItem} (read : host.functionItem? item = some function)
    (expands : expand host contract.kind contract.argument item = .ok output) :
    ∃ clause, contract.Attaches host clause ∧ output = attached function clause := by
  cases readArgument : Argument.read host contract.argument with
  | error rejection =>
      unfold expand at expands
      rw [readArgument] at expands
      cases expands
  | ok argument =>
      rw [expand_apply readArgument read] at expands
      split at expands
      · cases expands
      · cases expands
        exact ⟨_, ⟨argument, readArgument, rfl⟩, rfl⟩

/-- An attribute attaches one clause at most. -/
theorem Contract.rightUnique_attaches : Relator.RightUnique (Contract.Attaches host) := by
  rintro contract first second ⟨argument, read, rfl⟩ ⟨other, readAgain, rfl⟩
  obtain rfl : argument = other := Except.ok.inj (read.symm.trans readAgain)
  rfl

/-- The condition of an attribute, if it has one, is read again as it stands. -/
def Contract.Stands (contract : Contract) : Prop :=
  ∀ clause, contract.Attaches .standard clause → ClauseStands clause

theorem Contract.Attaches.stands {contract : Contract} {clause : Clause (List Token) (List Token)}
    (attaches : contract.Attaches .standard clause) (again : ClauseStands clause) :
    contract.Stands := by
  intro other attachesToo
  exact Contract.rightUnique_attaches attaches attachesToo ▸ again

/-- A stack that expands to a function has attached its conditions to the function it stood on. -/
theorem attaches_of_expandAll {stack : List Contract} (again : ∀ contract ∈ stack, contract.Stands)
    {item output : List Token} {function expanded : FunctionItem}
    (read : HostLanguage.standard.functionItem? item = some function)
    (stands : FunctionStands function) (expands : expandAll .standard stack item = .ok output)
    (reads : HostLanguage.standard.functionItem? output = some expanded) :
    ∃ clauses, List.Forall₂ (Contract.Attaches .standard) stack clauses ∧
      expanded = layeredAll function clauses := by
  induction stack generalizing item function with
  | nil =>
      cases expands
      obtain rfl : function = expanded := Option.some.inj (read.symm.trans reads)
      exact ⟨[], .nil, (layeredAll_nil function).symm⟩
  | cons contract stack inductionHypothesis =>
      cases once : expand .standard contract.kind contract.argument item with
      | error rejection =>
          rw [expandAll, once] at expands
          cases expands
      | ok written =>
          rw [expandAll_cons once] at expands
          rcases attaches_of_expand read once with ⟨clause, attaches, rfl⟩
          obtain ⟨first, others⟩ := List.forall_mem_cons.mp again
          have firstStands := first clause attaches
          have readBack := functionItem?_attached read stands firstStands
          rcases functionItem?_of_expandAll expands reads with ⟨next, readNext⟩
          -- What this attribute wrote is read by the next one, or at the end of the stack, so no
          -- attributes from inside the block stand before the function.
          have bare : function.innerAttributes = [] := by
            by_contra inner
            rw [if_neg inner, readNext] at readBack
            cases readBack
          rw [if_pos bare] at readBack
          rcases inductionHypothesis others readBack (stands.layered firstStands) expands with
            ⟨clauses, attach, rfl⟩
          exact ⟨clause :: clauses, .cons attaches attach, layeredAll_layered function clause clauses⟩

end Attribute
end Assurance
