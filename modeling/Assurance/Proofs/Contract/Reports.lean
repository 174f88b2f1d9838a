import Assurance.Contract.Script
import Assurance.Proofs.Contract.Severity

namespace Assurance

/-!
# Reports of the standard handler

Checks made through the check functions of the build agree with the standard
handler about what happens after a violation, because both go by the same
configuration.  So the handler comes back only where the check goes on as well,
and no violation is escalated: each one is reported by its handler and by nothing
else, and its record is never tagged.

The invariant of a run is the machine with the violations found so far recorded
in it.  The colour mode is settled by the first report and kept by all others, so
the lines of a run are written in one mode.

Main statement: `runAll_reports_once`.
-/

variable {η : Type}

/-- A check made through one of the check functions of the build, in some form. -/
structure BuildCheck where
  site : Script.Site
  form : Script.Form
  tier : Tier
  family : Family
  holds : Bool

namespace BuildCheck

/-- Where the check says that it stands. -/
def location (check : BuildCheck) : Location := check.form.location check.site

/-- The record of the check, should it fail; it is not tagged. -/
def info (check : BuildCheck) : Info := ⟨check.tier, check.family, check.location, false⟩

/-- Whether the check is evaluated at a level and finds a violation. -/
def fails (level : Level) (check : BuildCheck) : Bool :=
  check.tier.isActive level && !check.holds

def run (program : Program η) (check : BuildCheck) : Action (Machine η) Unit :=
  program.checkBuild check.tier check.family check.holds check.location

/-- Make checks one after the other. -/
def runAll (program : Program η) : List BuildCheck → Action (Machine η) Unit
  | [] => pure ()
  | check :: checks => do
      check.run program
      runAll program checks

end BuildCheck

namespace Machine

/-- The machine with the event and the line of each of some violations. -/
def recording (machine : Machine η) (severity : Severity) (infos : List Info) : Machine η :=
  { machine with
    log := machine.log ++ infos.map (Entry.event severity)
    lines := machine.lines ++ infos.map (Diagnostic.render machine.colourMode)
    detected := if infos.isEmpty then machine.detected else some machine.colourMode }

@[simp] theorem recording_nil (machine : Machine η) (severity : Severity) :
    machine.recording severity [] = machine := by
  simp [recording]

@[simp] theorem slot_recording (machine : Machine η) (severity : Severity) (infos : List Info) :
    (machine.recording severity infos).slot = machine.slot := rfl

@[simp] theorem colourMode_recording (machine : Machine η) (severity : Severity)
    (infos : List Info) : (machine.recording severity infos).colourMode = machine.colourMode := by
  cases infos <;> rfl

/-- Violations recorded one after the other are recorded together. -/
theorem recording_recording (machine : Machine η) (severity : Severity) (info : Info)
    (infos : List Info) :
    (machine.recording severity [info]).recording severity infos =
      machine.recording severity (info :: infos) := by
  cases infos <;> simp [recording, colourMode]

end Machine

namespace BuildCheck

open Assurance.Action

variable {program : Program η}

theorem run_apply_of_passes {check : BuildCheck} (passes : check.fails program.build.level = false)
    (machine : Machine η) : check.run program machine = (.returned (), machine) := by
  have quiet : check.holds = true ∨ check.tier.isActive program.build.level = false := by
    rcases Bool.and_eq_false_iff.mp passes with inactive | holding
    · exact Or.inr inactive
    · exact Or.inl (by simpa using holding)
  exact congrFun (Program.check_of_quiet program quiet check.family check.location) machine

/-- A failed check leaves nothing behind but its event and its line, and goes by the build. -/
theorem run_apply_of_fails {check : BuildCheck} (fails : check.fails program.build.level = true)
    {machine : Machine η} (standard : machine.slot = .standard) :
    check.run program machine =
      (if program.build.continues then .returned () else program.build.ending check.info,
        machine.recording program.build.severity [check.info]) := by
  rcases Bool.and_eq_true_iff.mp fails with ⟨active, failing⟩
  have broken : check.holds = false := by simpa using failing
  unfold run Program.checkBuild
  rw [broken, Program.check_apply_of_standard active check.family check.location standard]
  by_cases continues : program.build.continues = true
  · rw [if_pos continues, if_pos continues, if_pos continues]
    rfl
  · rw [if_neg continues, if_neg continues]
    rfl

theorem runAll_cons_apply (check : BuildCheck) (checks : List BuildCheck) (machine : Machine η) :
    runAll program (check :: checks) machine =
      match check.run program machine with
      | (.returned (), after) => runAll program checks after
      | (.raised payload, after) => (.raised payload, after)
      | (.aborted, after) => (.aborted, after) := by
  rw [runAll, bind_apply, followedBy]
  rcases check.run program machine with ⟨outcome, after⟩
  cases outcome <;> rfl

theorem runAll_apply_of_pass {checks : List BuildCheck}
    (pass : ∀ check ∈ checks, check.fails program.build.level = false) (machine : Machine η) :
    runAll program checks machine = (.returned (), machine) := by
  induction checks with
  | nil => rfl
  | cons check checks inductionHypothesis =>
      rw [runAll_cons_apply, run_apply_of_passes (pass check List.mem_cons_self)]
      exact inductionHypothesis fun other member => pass other (List.mem_cons_of_mem check member)

/-- In a build that goes on, a run comes to its end and has recorded all violations. -/
theorem runAll_apply_of_continues (continues : program.build.continues = true)
    (checks : List BuildCheck) {machine : Machine η} (standard : machine.slot = .standard) :
    runAll program checks machine =
      (.returned (), machine.recording .warning
        ((checks.filter (fails program.build.level)).map info)) := by
  have severity : program.build.severity = .warning := if_pos continues
  induction checks generalizing machine with
  | nil =>
      rw [List.filter_nil, List.map_nil, Machine.recording_nil]
      rfl
  | cons check checks inductionHypothesis =>
      rw [runAll_cons_apply]
      cases failing : check.fails program.build.level with
      | false =>
          rw [run_apply_of_passes failing, List.filter_cons_of_neg (by simp [failing])]
          exact inductionHypothesis standard
      | true =>
          rw [run_apply_of_fails failing standard, if_pos continues, severity,
            List.filter_cons_of_pos failing, List.map_cons,
            ← machine.recording_recording .warning check.info
              ((checks.filter (fails program.build.level)).map info)]
          exact inductionHypothesis standard

/-- In a build that does not go on, the first violation ends the run. -/
theorem runAll_apply_of_stops (stops : program.build.continues = false) {earlier : List BuildCheck}
    (pass : ∀ check ∈ earlier, check.fails program.build.level = false) {first : BuildCheck}
    (fails : first.fails program.build.level = true) (later : List BuildCheck)
    {machine : Machine η} (standard : machine.slot = .standard) :
    runAll program (earlier ++ first :: later) machine =
      (program.build.ending first.info, machine.recording .error [first.info]) := by
  have severity : program.build.severity = .error := by
    rw [Config.severity, stops]
    rfl
  induction earlier with
  | nil =>
      rw [List.nil_append, runAll_cons_apply, run_apply_of_fails fails standard, stops, severity]
      simp only [Bool.false_eq_true, if_false]
      cases ended : (program.build.ending first.info : Outcome Unit) with
      | returned => exact absurd ended (program.build.ending_ne_returned first.info ())
      | raised payload => rfl
      | aborted => rfl
  | cons check checks inductionHypothesis =>
      rw [List.cons_append, runAll_cons_apply, run_apply_of_passes (pass check List.mem_cons_self)]
      exact inductionHypothesis fun other member => pass other (List.mem_cons_of_mem check member)

/-- Checks of the build under the standard handler.  In a build that goes on, all of them return,
and each violation has added one event and one line, in order.  In a build that does not, the checks
before the first violation leave the machine as it is, the violation adds one event and one line and
ends the program, and nothing after it is run.  Every line is that of a record that is not tagged,
and the record that is raised is not tagged either. -/
theorem runAll_reports_once (program : Program η) (checks : List BuildCheck) (machine : Machine η)
    (standard : machine.slot = .standard) :
    (program.build.continues = true →
      let found := (checks.filter (fails program.build.level)).map info
      runAll program checks machine =
        (.returned (),
          { machine with
            log := machine.log ++ found.map (Entry.event .warning)
            lines := machine.lines ++ found.map (Diagnostic.render machine.colourMode)
            detected := if found.isEmpty then machine.detected else some machine.colourMode })) ∧
    (program.build.continues = false →
      ((∀ check ∈ checks, check.fails program.build.level = false) →
        runAll program checks machine = (.returned (), machine)) ∧
      ∀ earlier first later, checks = earlier ++ first :: later →
        (∀ check ∈ earlier, check.fails program.build.level = false) →
        first.fails program.build.level = true →
          runAll program earlier machine = (.returned (), machine) ∧
          runAll program checks machine =
            (if program.build.compliant then
              .raised (.violation (.ofInfo first.info (Diagnostic.render .plain first.info)))
            else .aborted,
            { machine with
              log := machine.log ++ [.event .error first.info]
              lines := machine.lines ++ [Diagnostic.render machine.colourMode first.info]
              detected := some machine.colourMode })) ∧
    ∀ check : BuildCheck, check.info.unhandled = false ∧
      check.info.text = check.tier.name ++ " " ++ check.family.name := by
  refine ⟨?_, ?_, ?_⟩
  · intro continues
    exact runAll_apply_of_continues continues checks standard
  · intro stops
    refine ⟨fun pass => runAll_apply_of_pass pass machine, ?_⟩
    rintro earlier first later rfl pass failing
    exact ⟨runAll_apply_of_pass pass machine,
      runAll_apply_of_stops stops pass failing later standard⟩
  · intro check
    exact ⟨rfl, String.empty_append⟩

/-- A check that passes, one that is never evaluated, one of a tier that is not live, and two that
fail: only the first of the two is reported, and it ends the run. -/
theorem runAll_ends_at_first_failure :
    let program : Program Empty := ⟨⟨.default, false, true⟩, nofun⟩
    let site : Script.Site := ⟨"a.rs", 3, 1, "run", "examples"⟩
    let earlier : List BuildCheck :=
      [⟨site, .plain, .default, .assertion, true⟩, ⟨site, .capturing, .assumed, .assertion, false⟩,
       ⟨site, .plain, .audit, .postcondition, false⟩]
    let first : BuildCheck := ⟨site, .capturing, .default, .precondition, false⟩
    let later : List BuildCheck := [⟨site, .plain, .default, .postcondition, false⟩]
    let machine : Machine Empty := Machine.initial ⟨none, none, false⟩
    runAll program (earlier ++ first :: later) machine =
      (.raised (.violation (.ofInfo first.info (Diagnostic.render .plain first.info))),
        { machine with
          log := [.event .error first.info]
          lines := [Diagnostic.render .plain first.info]
          detected := some .plain }) := by
  intro program site earlier first later machine
  have settled := runAll_reports_once program (earlier ++ first :: later) machine rfl
  exact ((settled.2.1 rfl).2 earlier first later rfl (by decide) rfl).2

end BuildCheck

end Assurance
