import Assurance.Proofs.Contract.Escalation

namespace Assurance

/-!
# Demands

A demand is a condition that has been evaluated, together with what a check has to
know about it.  What a check makes of it depends on the level alone: either nothing
at all happens, or a violation with the record of the demand is found.  The
configuration of the check says only what becomes of that violation.
-/

variable {η : Type}

/-- An evaluated condition with the tier, the family and the place of its check. -/
structure Demand where
  tier : Tier
  family : Family
  holds : Bool
  location : Location
deriving DecidableEq, Repr

namespace Demand

/-- The record of the violation, should the demand fail; it is not tagged. -/
def info (demand : Demand) : Info :=
  ⟨demand.tier, demand.family, demand.location, false⟩

/-- Whether a check at a level finds a violation. -/
def fails (level : Level) (demand : Demand) : Bool :=
  demand.tier.isActive level && !demand.holds

def run (program : Program η) (config : Config) (demand : Demand) : Action (Machine η) Unit :=
  program.check config demand.tier demand.family demand.holds demand.location

variable {program : Program η} {config : Config} {demand : Demand}

theorem run_of_passes (passes : demand.fails config.level = false) :
    demand.run program config = pure () := by
  have quiet : demand.holds = true ∨ demand.tier.isActive config.level = false := by
    rcases Bool.and_eq_false_iff.mp passes with inactive | holding
    · exact Or.inr inactive
    · exact Or.inl (by simpa using holding)
  exact program.check_of_quiet quiet demand.family demand.location

theorem run_of_fails (fails : demand.fails config.level = true) :
    demand.run program config = program.violated config demand.info := by
  rcases Bool.and_eq_true_iff.mp fails with ⟨active, failing⟩
  have broken : demand.holds = false := by simpa using failing
  rw [run, broken]
  exact program.check_of_violation active demand.family demand.location

end Demand

end Assurance
