import Assurance.Contract.Check

namespace Assurance

/-!
# What becomes of a violation

A failed check of a live tier logs one event and hands the record to whatever
handler is installed.  The handler is an arbitrary action: it may log, change
the slot, fail checks of its own, raise or abort.  Here the outcome and the
machine that a check leaves behind are computed from those that the handler
leaves behind, for every handler and every configuration, so nothing about a
handler has to be assumed.

Main statement: `check_never_silent`.
-/

variable {η α : Type}

namespace Machine

/-- The machine with one more entry in its log. -/
def logging (machine : Machine η) (entry : Entry η) : Machine η :=
  { machine with log := machine.log ++ [entry] }

/-- The machine once the line of a violation has been written, in the colour mode that is kept from
then on. -/
def reporting (machine : Machine η) (info : Info) : Machine η :=
  { machine with
    lines := machine.lines ++ [Diagnostic.render machine.colourMode info]
    detected := some machine.colourMode }

end Machine

/-- How a program ends over a record: the record is raised with its plain line, or the program
aborts. -/
def Config.ending (config : Config) (info : Info) : Outcome α :=
  if config.compliant then
    .raised (.violation ⟨Diagnostic.render .plain info, info.text, info.location.file,
      info.location.line⟩)
  else .aborted

theorem Config.ending_ne_returned (config : Config) (info : Info) (value : α) :
    config.ending info ≠ .returned value := by
  unfold ending
  split <;> simp

namespace Action

theorem note_apply (entry : Entry η) (machine : Machine η) :
    note entry machine = (.returned (), machine.logging entry) := rfl

theorem report_apply (info : Info) (machine : Machine η) :
    report info machine = (.returned (), machine.reporting info) := rfl

theorem terminate_apply (config : Config) (info : Info) (machine : Machine η) :
    (terminate config info : Action (Machine η) α) machine = (config.ending info, machine) := by
  unfold terminate Config.ending
  split <;> rfl

theorem fatal_apply (config : Config) (info : Info) (machine : Machine η) :
    (fatal config info : Action (Machine η) α) machine =
      (config.ending info, machine.reporting info) := by
  unfold fatal
  rw [bind_apply, followedBy, report_apply]
  exact terminate_apply config info (machine.reporting info)

/-- The standard handler reports, and then goes by the configuration of the build. -/
theorem standardHandler_apply (build : Config) (info : Info) (machine : Machine η) :
    standardHandler build info machine =
      (if build.continues then .returned () else build.ending info, machine.reporting info) := by
  unfold standardHandler
  rw [bind_apply, followedBy, report_apply]
  by_cases continues : build.continues = true
  · simp only [continues, if_true, pure_apply]
  · simp only [continues, Bool.false_eq_true, if_false]
    exact terminate_apply build info (machine.reporting info)

end Action

namespace Program

open Assurance.Action

theorem dispatch_apply (program : Program η) (info : Info) (machine : Machine η) :
    program.dispatch info machine = program.handle machine.slot info machine := rfl

/-- What happens once a violation is found, in terms of what its handler does.  The handler starts
from the machine in which nothing but the event has changed. -/
theorem violated_apply (program : Program η) (config : Config) (info : Info)
    (machine : Machine η) :
    program.violated config info machine =
      match program.handle machine.slot info (machine.logging (.event config.severity info)) with
      | (.returned (), after) =>
          if config.continues then (.returned (), after)
          else (config.ending info.tagged, after.reporting info.tagged)
      | (.raised payload, after) => (.raised payload, after)
      | (.aborted, after) => (.aborted, after) := by
  unfold violated
  simp only [bind_apply, followedBy, note_apply, dispatch_apply]
  generalize called : program.handle machine.slot info _ = result
  have logged : program.handle (machine.logging (.event config.severity info)).slot info
      (machine.logging (.event config.severity info)) = result := called
  rw [logged]
  rcases result with ⟨outcome, after⟩
  cases outcome with
  | returned =>
      by_cases continues : config.continues = true
      · simp only [continues, if_true]
        rfl
      · simp only [continues, Bool.false_eq_true, if_false]
        exact fatal_apply config info.tagged after
  | raised payload => rfl
  | aborted => rfl

theorem check_of_quiet (program : Program η) {config : Config} {tier : Tier} {holds : Bool}
    (quiet : holds = true ∨ tier.isActive config.level = false) (family : Family)
    (location : Location) :
    program.check config tier family holds location = pure () := by
  unfold check
  rcases quiet with holding | inactive
  · rw [holding, Bool.not_true, Bool.and_false]
    rfl
  · rw [inactive, Bool.false_and]
    rfl

theorem check_of_violation (program : Program η) {config : Config} {tier : Tier}
    (active : tier.isActive config.level = true) (family : Family) (location : Location) :
    program.check config tier family false location =
      program.violated config (.fresh tier family location) := by
  unfold check
  rw [active]
  rfl

/-- A failed check under a handler that does not return ends as the handler does. -/
theorem check_apply_of_unreturned {program : Program η} {config : Config} {tier : Tier}
    (active : tier.isActive config.level = true) {family : Family} {location : Location}
    {machine after : Machine η} {outcome : Outcome Unit}
    (handled : program.handle machine.slot (.fresh tier family location)
      (machine.logging (.event config.severity (.fresh tier family location))) = (outcome, after))
    (unreturned : outcome ≠ .returned ()) :
    program.check config tier family false location machine = (outcome, after) := by
  rw [check_of_violation program active, violated_apply, handled]
  cases outcome with
  | returned => exact absurd rfl unreturned
  | raised payload => rfl
  | aborted => rfl

/-- A check of a live tier returns over a failed condition only where the configuration goes on. -/
theorem continues_of_check_returned (program : Program η) {config : Config} {tier : Tier}
    (active : tier.isActive config.level = true) (family : Family) (location : Location)
    (machine : Machine η)
    (returned : (program.check config tier family false location machine).1 = .returned ()) :
    config.continues = true := by
  cases continues : config.continues with
  | true => rfl
  | false =>
      rw [check_of_violation program active, violated_apply] at returned
      rcases handled : program.handle machine.slot (.fresh tier family location)
        (machine.logging (.event config.severity (.fresh tier family location)))
          with ⟨outcome, after⟩
      rw [handled] at returned
      cases outcome with
      | returned =>
          simp only [continues, Bool.false_eq_true, if_false] at returned
          exact absurd returned (config.ending_ne_returned _ ())
      | raised payload => cases returned
      | aborted => cases returned

/-- A check that finds nothing wrong, or whose tier is not live, leaves the machine as it is.  Any
other check logs one event and calls the handler installed at that moment, with the record of the
violation, on the machine in which only the log has changed.  If that call raises or aborts, so does
the check.  If it returns, the check returns only where the configuration goes on; everywhere else
the tagged record is reported and ends the program.

The handler stands for an arbitrary function on machines, so the single application of it in the
equation is the only call there is. -/
theorem check_never_silent (program : Program η) (config : Config) (tier : Tier) (family : Family)
    (holds : Bool) (location : Location) (machine : Machine η) :
    ((holds = true ∨ tier.isActive config.level = false) →
      program.check config tier family holds location machine = (.returned (), machine)) ∧
    (holds = false ∧ tier.isActive config.level = true →
      let info : Info := ⟨tier, family, location, false⟩
      let tagged : Info := ⟨tier, family, location, true⟩
      let event : Entry η := .event (if config.continues then .warning else .error) info
      ∀ outcome after,
        program.handle machine.slot info { machine with log := machine.log ++ [event] } =
          (outcome, after) →
        (outcome ≠ .returned () →
          program.check config tier family holds location machine = (outcome, after)) ∧
        (outcome = .returned () → config.continues = true →
          program.check config tier family holds location machine = (.returned (), after)) ∧
        (outcome = .returned () → config.continues = false →
          program.check config tier family holds location machine =
            (if config.compliant then
              .raised (.violation (.ofInfo tagged (Diagnostic.render .plain tagged)))
            else .aborted,
            { after with
              lines := after.lines ++ [Diagnostic.render after.colourMode tagged]
              detected := some after.colourMode }))) := by
  constructor
  · intro quiet
    rw [check_of_quiet program quiet]
    rfl
  · rintro ⟨rfl, active⟩ info tagged event outcome after called
    have handled : program.handle machine.slot (.fresh tier family location)
        (machine.logging (.event config.severity (.fresh tier family location))) =
          (outcome, after) := called
    have checked := congrFun (check_of_violation program active family location) machine
    rw [violated_apply, handled] at checked
    refine ⟨?_, ?_, ?_⟩
    · intro ended
      rw [checked]
      cases outcome with
      | returned => exact absurd rfl ended
      | raised payload => rfl
      | aborted => rfl
    · rintro rfl continues
      rw [checked]
      simp only [continues, if_true]
    · rintro rfl stops
      rw [checked]
      simp only [stops, Bool.false_eq_true, if_false]
      rfl

end Program

end Assurance
