import Assurance.Proofs.Contract.Escalation

namespace Assurance

/-!
# Severity and outcome

The event of a violation is logged before the handler runs, with a severity that
is read off the configuration of the check.  The standard handler does not see
that configuration: it goes by the one of the build.  So the severity is a
forecast, and here it is settled when the forecast is right, for the standard
handler and for every handler that returns.

Only one thing can go wrong.  A check that may go on, in a build that may not,
under the standard handler, logs a warning and ends the program.

Main statement: `severity_tellsTruth_iff`.
-/

variable {η α : Type}

/-- The program is ended, by raising the record of a violation or by aborting. -/
def Outcome.Terminates : Outcome α → Prop
  | .returned _ => False
  | .raised payload => ∃ violation, payload = .violation violation
  | .aborted => True

/-- An error stands for the end of the program and a warning for its going on. -/
def Severity.TellsTruth (severity : Severity) (outcome : Outcome Unit) : Prop :=
  (severity = .error ↔ outcome.Terminates) ∧ (severity = .warning ↔ outcome = .returned ())

theorem Outcome.Terminates.ne_returned {outcome : Outcome α} (terminates : outcome.Terminates)
    (value : α) : outcome ≠ .returned value := by
  rintro rfl
  exact terminates

theorem Config.terminates_ending (config : Config) (info : Info) :
    (config.ending info : Outcome α).Terminates := by
  unfold ending
  split
  · exact ⟨_, rfl⟩
  · trivial

theorem Severity.tellsTruth_error_iff {outcome : Outcome Unit} :
    Severity.error.TellsTruth outcome ↔ outcome.Terminates := by
  constructor
  · intro truth
    exact truth.1.mp rfl
  · intro terminates
    refine ⟨⟨fun _ => terminates, fun _ => rfl⟩, ?_⟩
    constructor
    · intro impossible
      cases impossible
    · intro returned
      exact absurd returned (terminates.ne_returned ())

theorem Severity.tellsTruth_warning_iff {outcome : Outcome Unit} :
    Severity.warning.TellsTruth outcome ↔ outcome = .returned () := by
  constructor
  · intro truth
    exact truth.2.mp rfl
  · rintro rfl
    refine ⟨⟨?_, fun impossible => impossible.elim⟩, ⟨fun _ => rfl, fun _ => rfl⟩⟩
    intro impossible
    cases impossible

namespace Program

open Assurance.Action

/-- A failed check under a handler that returns: what is left of the check goes by its own
configuration. -/
theorem check_apply_of_handled {program : Program η} {config : Config} {tier : Tier}
    (active : tier.isActive config.level = true) {family : Family} {location : Location}
    {machine after : Machine η}
    (handled : program.handle machine.slot (.fresh tier family location)
      (machine.logging (.event config.severity (.fresh tier family location))) =
        (.returned (), after)) :
    program.check config tier family false location machine =
      if config.continues then (.returned (), after)
      else (config.ending (Info.fresh tier family location).tagged,
        after.reporting (Info.fresh tier family location).tagged) := by
  rw [check_of_violation program active, violated_apply, handled]

/-- A failed check under the standard handler: the handler reports and goes by the build; the check
goes by its own configuration only if the handler comes back. -/
theorem check_apply_of_standard {program : Program η} {config : Config} {tier : Tier}
    (active : tier.isActive config.level = true) (family : Family) (location : Location)
    {machine : Machine η} (standard : machine.slot = .standard) :
    let info : Info := .fresh tier family location
    let reported := (machine.logging (.event config.severity info)).reporting info
    program.check config tier family false location machine =
      if program.build.continues then
        if config.continues then (.returned (), reported)
        else (config.ending info.tagged, reported.reporting info.tagged)
      else (program.build.ending info, reported) := by
  intro info reported
  have handled : program.handle machine.slot info
      (machine.logging (.event config.severity info)) =
        (if program.build.continues then .returned () else program.build.ending info,
          reported) := by
    rw [standard]
    exact standardHandler_apply program.build info _
  by_cases continues : program.build.continues = true
  · rw [if_pos continues] at handled ⊢
    exact check_apply_of_handled active handled
  · rw [if_neg continues] at handled ⊢
    exact check_apply_of_unreturned active handled (program.build.ending_ne_returned info ())

/-- Under a handler that returns, the severity is right. -/
theorem tellsTruth_of_handled {program : Program η} {config : Config} {tier : Tier}
    (active : tier.isActive config.level = true) {family : Family} {location : Location}
    {machine after : Machine η}
    (handled : program.handle machine.slot (.fresh tier family location)
      (machine.logging (.event config.severity (.fresh tier family location))) =
        (.returned (), after)) :
    config.severity.TellsTruth (program.check config tier family false location machine).1 := by
  rw [check_apply_of_handled active handled, Config.severity]
  by_cases continues : config.continues = true
  · rw [if_pos continues, if_pos continues]
    exact Severity.tellsTruth_warning_iff.mpr rfl
  · rw [if_neg continues, if_neg continues]
    exact Severity.tellsTruth_error_iff.mpr (config.terminates_ending _)

/-- Under the standard handler of a build that ends the program, only an error is right. -/
theorem tellsTruth_iff_of_standard {program : Program η} {config : Config} {tier : Tier}
    (active : tier.isActive config.level = true) (family : Family) (location : Location)
    {machine : Machine η} (standard : machine.slot = .standard)
    (stops : program.build.continues = false) :
    config.severity.TellsTruth (program.check config tier family false location machine).1 ↔
      config.continues = false := by
  rw [check_apply_of_standard active family location standard, stops, Config.severity]
  simp only [Bool.false_eq_true, if_false]
  cases continues : config.continues with
  | true =>
      simp only [if_true, Severity.tellsTruth_warning_iff]
      constructor
      · intro returned
        exact absurd returned (program.build.ending_ne_returned _ ())
      · intro impossible
        cases impossible
  | false =>
      simp only [Bool.false_eq_true, if_false, Severity.tellsTruth_error_iff, iff_true]
      exact program.build.terminates_ending _

/-- A failed check of a live tier logs its event, and then calls the handler; nothing is logged
after the handler.  If the handler is the standard one or returns, the severity of the event tells
the truth about the outcome of the check, except in one case: the check may go on, the build may
not, and the standard handler is installed. -/
theorem severity_tellsTruth_iff (program : Program η) (config : Config) (tier : Tier)
    (active : tier.isActive config.level = true) (family : Family) (location : Location)
    (machine : Machine η)
    (regular : machine.slot = .standard ∨
      (program.handle machine.slot (.fresh tier family location)
        (machine.logging (.event config.severity (.fresh tier family location)))).1 =
          .returned ()) :
    let event : Entry η := .event config.severity (.fresh tier family location)
    let handled := program.handle machine.slot (.fresh tier family location) (machine.logging event)
    let checked := program.check config tier family false location machine
    checked.2.log = handled.2.log ∧
    (machine.slot = .standard → checked.2.log = machine.log ++ [event]) ∧
    (config.severity.TellsTruth checked.1 ↔
      ¬ (machine.slot = .standard ∧ config.continues = true ∧
        program.build.continues = false)) := by
  intro event handled checked
  have called : program.handle machine.slot (.fresh tier family location)
      (machine.logging event) = handled := rfl
  have loggedLast : checked.2.log = handled.2.log := by
    show (program.check config tier family false location machine).2.log = handled.2.log
    rw [check_of_violation program active, violated_apply, called]
    rcases handled with ⟨outcome, after⟩
    cases outcome with
    | returned =>
        simp only
        split <;> rfl
    | raised payload => rfl
    | aborted => rfl
  have loggedAlone : machine.slot = .standard → checked.2.log = machine.log ++ [event] := by
    intro standard
    rw [loggedLast, ← called, standard]
    exact congrArg (fun result => result.2.log)
      (standardHandler_apply program.build (.fresh tier family location) (machine.logging event))
  refine ⟨loggedLast, loggedAlone, ?_⟩
  by_cases wrong : machine.slot = .standard ∧ program.build.continues = false
  · rw [tellsTruth_iff_of_standard active family location wrong.1 wrong.2]
    simp [wrong.1, wrong.2]
  · have returned : handled.1 = .returned () := by
      rcases regular with standard | returned
      · have continues : program.build.continues = true := by
          simpa [standard] using wrong
        rw [← called, standard]
        show (standardHandler program.build _ _).1 = _
        rw [standardHandler_apply, continues]
        rfl
      · exact returned
    have right := tellsTruth_of_handled active (Prod.ext returned rfl : handled = (.returned (), _))
    refine ⟨fun _ exception => wrong ⟨exception.1, exception.2.2⟩, fun _ => right⟩

/-- A build that goes on, with a handler that returns: a check that may not go on logs an error and
aborts. -/
theorem error_before_abort :
    let program : Program Unit := ⟨⟨.audit, true, true⟩, fun _ _ => pure ()⟩
    let machine : Machine Unit := { Machine.initial ⟨none, none, false⟩ with slot := .named () }
    let checked := program.check (.ofLevel .default) .default .assertion false
      ⟨"a.rs", "run", 1, 1⟩ machine
    checked.1 = .aborted ∧ (Config.ofLevel .default).severity = .error ∧
      (Config.ofLevel .default).severity.TellsTruth checked.1 := by
  intro program machine checked
  have settled := severity_tellsTruth_iff program (.ofLevel .default) .default rfl .assertion
    ⟨"a.rs", "run", 1, 1⟩ machine (Or.inr rfl)
  refine ⟨rfl, rfl, settled.2.2.mpr ?_⟩
  rintro ⟨standard, -⟩
  cases standard

/-- A check that may go on, in a build that may not: the event is a warning, and the program is
ended all the same. -/
theorem not_tellsTruth_of_disagreement :
    let program : Program Empty := ⟨⟨.audit, false, true⟩, nofun⟩
    let config : Config := ⟨.audit, true, true⟩
    let location : Location := ⟨"a.rs", "run", 1, 1⟩
    let info : Info := .fresh .default .precondition location
    let checked := program.check config .default .precondition false location
      (Machine.initial ⟨none, none, false⟩)
    checked.2.log = [.event .warning info] ∧
      checked.1 = .raised (.violation (.ofInfo info (Diagnostic.render .plain info))) ∧
      ¬ Severity.warning.TellsTruth checked.1 := by
  intro program config location info checked
  have raised : checked.1 =
      .raised (.violation (.ofInfo info (Diagnostic.render .plain info))) := rfl
  refine ⟨rfl, raised, ?_⟩
  rw [Severity.tellsTruth_warning_iff, raised]
  intro impossible
  cases impossible

end Program

end Assurance
