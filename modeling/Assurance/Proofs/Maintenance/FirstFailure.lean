import Assurance.Proofs.Maintenance.MarkerCount

namespace Assurance
namespace Maintenance

/-!
# Tasks stop at the first failure

What a task starts is the list of its commands, cut off after the first one that
fails.  A command that cannot be started is not in the list of what was started,
but ends the task like any failure; so does a failed check of the markers, which
comes before all commands.

All commands but those of the proofs see the level that is written down for them,
or none.  So nothing in the end of a task depends on the level outside.

An induction over the steps gives all of this.  Its only hypothesis on steps is
that their commands are in the project's directory and set the level.

Main statement: `run_stops_at_first_failure`.
-/

/-- The command that a step starts, if it starts one. -/
def Step.command? : Step → Option Command
  | say _ => none
  | countMarkers => none
  | command started => some started

/-- The commands of a task, in their order. -/
def Task.commands (task : Task) : List Command :=
  task.steps.filterMap Step.command?

/-- The level that a setting puts in place of the one outside, if it does. -/
def LevelSetting.override? : LevelSetting → Option Level
  | inherited => none
  | unset => none
  | fixed level => some level

/-- A command as it is started in a directory, with its level or with none. -/
def Command.startedIn (place : Place) (command : Command) : Started where
  place := place
  level := command.level.override?.map fun level => Nat.repr level.number
  arguments := command.arguments

/-- A command that runs in the project's directory and does not leave the level as it is. -/
def Command.Isolated (command : Command) : Prop :=
  command.below = [] ∧ command.level ≠ .inherited

instance : DecidablePred Command.Isolated :=
  fun command => inferInstanceAs (Decidable (command.below = [] ∧ command.level ≠ .inherited))

theorem Task.isolated {task : Task} (noProofs : task ≠ .proofs) :
    ∀ command ∈ task.commands, command.Isolated := by
  cases task with
  | proofs => exact absurd rfl noProofs
  | _ => decide

example : Task.verify.commands.map (fun command => (command.level.override?, command.arguments)) =
    [(some .disabled, ["test", "--quiet"]), (none, ["test", "--quiet"]),
      (none, ["test", "--quiet", "--features", "audit"]),
      (none, ["test", "--quiet", "--features", "continue-on-violation"]),
      (some .audit, ["test", "--quiet", "--features", "autosar-compliant"]),
      (none, ["clippy", "--workspace", "--quiet", "--", "-D", "warnings"])] := by
  decide

theorem LevelSetting.seen_of_ne {setting : LevelSetting} (isolated : setting ≠ .inherited)
    (outside : Option String) :
    setting.seen outside = setting.override?.map fun level => Nat.repr level.number := by
  cases setting with
  | inherited => exact absurd rfl isolated
  | unset => rfl
  | fixed level => rfl

/-- What is reached of some commands, if each is told by its number whether it succeeds and the first
one that fails is the last. -/
structure StopsAtFailure (succeeds : Nat → Bool) (commands reached : List Command) : Prop where
  /-- The commands are reached in their order, from the first one on. -/
  front : reached <+: commands
  /-- What is followed by another command succeeded. -/
  earlier : ∀ index, index + 1 < reached.length → succeeds index = true
  /-- If commands are left, it is because the last one failed. -/
  cut : reached.length < commands.length →
    ∃ last, reached.length = last + 1 ∧ succeeds last = false

/-- All of some commands succeed. -/
def AllSucceed (succeeds : Nat → Bool) (commands : List Command) : Prop :=
  ∀ index < commands.length, succeeds index = true

variable {succeeds : Nat → Bool} {command : Command} {commands reached : List Command}

theorem StopsAtFailure.nil : StopsAtFailure succeeds [] [] where
  front := List.prefix_rfl
  earlier := fun index below => absurd below (Nat.not_lt_zero (index + 1))
  cut := fun left => absurd left (Nat.lt_irrefl 0)

theorem StopsAtFailure.failed (fails : succeeds 0 = false) :
    StopsAtFailure succeeds (command :: commands) [command] where
  front := ⟨commands, rfl⟩
  earlier := fun index below => absurd (Nat.succ_lt_succ_iff.mp below) (Nat.not_lt_zero index)
  cut := fun _ => ⟨0, rfl, fails⟩

theorem StopsAtFailure.cons (first : succeeds 0 = true)
    (others : StopsAtFailure (fun index => succeeds (index + 1)) commands reached) :
    StopsAtFailure succeeds (command :: commands) (command :: reached) where
  front := (List.prefix_cons_inj command).mpr others.front
  earlier := by
    intro index below
    cases index with
    | zero => exact first
    | succ index => exact others.earlier index (Nat.lt_of_succ_lt_succ below)
  cut := by
    intro left
    rcases others.cut (Nat.lt_of_succ_lt_succ left) with ⟨last, length, fails⟩
    exact ⟨last + 1, congrArg Nat.succ length, fails⟩

/-- Nothing else can be reached. -/
theorem StopsAtFailure.eq_take {last : Nat} (stops : StopsAtFailure succeeds commands reached)
    (earlier : ∀ index < last, succeeds index = true) (fails : succeeds last = false) :
    reached = commands.take (last + 1) := by
  have atMost : reached.length ≤ last + 1 := by
    by_contra longer
    have succeeded := stops.earlier last (Nat.lt_of_not_le longer)
    exact Bool.false_ne_true (fails.symm.trans succeeded)
  rw [List.prefix_iff_eq_take.mp stops.front]
  by_cases left : reached.length < commands.length
  · rcases stops.cut left with ⟨index, length, failed⟩
    have notEarlier : ¬ index < last := fun below =>
      Bool.false_ne_true (failed.symm.trans (earlier index below))
    rw [show reached.length = last + 1 by omega]
  · rw [List.take_of_length_le (Nat.le_of_not_lt left), List.take_of_length_le (by omega)]

theorem allSucceed_cons_iff :
    AllSucceed succeeds (command :: commands) ↔
      succeeds 0 = true ∧ AllSucceed (fun index => succeeds (index + 1)) commands := by
  constructor
  · intro all
    exact ⟨all 0 (Nat.succ_pos _), fun index below => all (index + 1) (Nat.succ_lt_succ below)⟩
  · rintro ⟨first, others⟩ index below
    cases index with
    | zero => exact first
    | succ index => exact others index (Nat.lt_of_succ_lt_succ below)

variable {surroundings : Surroundings} {place : Place}

/-- Where the project's commands are started, if they can be. -/
def Surroundings.workplace (surroundings : Surroundings) : Except StartError Place :=
  surroundings.directory surroundings.hasCargo []

/-- What an isolated command does, for which the level outside does not matter. -/
theorem Command.run_of_isolated (isolated : command.Isolated) (surroundings : Surroundings)
    (progress : Progress) :
    command.run surroundings progress =
      match surroundings.workplace with
      | .error error =>
          (.error (Failure.within ⟨command.startFailure, [error.message]⟩ command.context),
            progress)
      | .ok place =>
          (if surroundings.succeeds progress.started.length then .ok ()
            else .error (Failure.within ⟨command.exitFailure, []⟩ command.context),
            ⟨progress.lines, progress.started ++ [command.startedIn place]⟩) := by
  have level := LevelSetting.seen_of_ne isolated.2 surroundings.level
  unfold Command.run Surroundings.workplace Command.startedIn
  rw [isolated.1, ← level]
  cases surroundings.directory surroundings.hasCargo [] with
  | error error => rfl
  | ok place => cases surroundings.succeeds progress.started.length <;> rfl

theorem runSteps_countMarkers (passes : checkMarkers surroundings = .ok ()) (steps : List Step)
    (progress : Progress) :
    runSteps surroundings (.countMarkers :: steps) progress =
      runSteps surroundings steps progress := by
  rw [runSteps, Step.run, passes]

theorem runSteps_command (isolated : command.Isolated) (found : surroundings.workplace = .ok place)
    (steps : List Step) (progress : Progress) :
    runSteps surroundings (.command command :: steps) progress =
      if surroundings.succeeds progress.started.length then
        runSteps surroundings steps
          ⟨progress.lines, progress.started ++ [command.startedIn place]⟩
      else (.error (Failure.within ⟨command.exitFailure, []⟩ command.context),
        ⟨progress.lines, progress.started ++ [command.startedIn place]⟩) := by
  rw [runSteps, Step.run, command.run_of_isolated isolated, found]
  cases surroundings.succeeds progress.started.length <;> rfl

/-! ## All steps -/

theorem runSteps_with_level (surroundings : Surroundings) (level : Option String)
    {steps : List Step}
    (isolated : ∀ command ∈ steps.filterMap Step.command?, command.Isolated)
    (progress : Progress) :
    runSteps { surroundings with level := level } steps progress =
      runSteps surroundings steps progress := by
  induction steps generalizing progress with
  | nil => rfl
  | cons step steps inductionHypothesis =>
      have same : step.run { surroundings with level := level } progress =
          step.run surroundings progress := by
        cases step with
        | say line => rfl
        | countMarkers => rfl
        | command command =>
            rw [Step.run, Step.run, command.run_of_isolated (isolated command List.mem_cons_self),
              command.run_of_isolated (isolated command List.mem_cons_self)]
            rfl
      have others : ∀ command ∈ steps.filterMap Step.command?, command.Isolated := by
        intro command member
        rcases List.mem_filterMap.mp member with ⟨later, among, starts⟩
        exact isolated command
          (List.mem_filterMap.mpr ⟨later, List.mem_cons_of_mem step among, starts⟩)
      rw [runSteps, runSteps, same]
      rcases step.run surroundings progress with ⟨failure | passed, after⟩
      · rfl
      · exact inductionHypothesis others after

/-- What is started after earlier commands is what is reached of some commands, and the end tells
whether all of them succeed. -/
def CarriesOut (surroundings : Surroundings) (place : Place) (commands : List Command)
    (earlier : List Started) (ended : Except Failure Unit × Progress) : Prop :=
  ∃ reached,
    StopsAtFailure (fun index => surroundings.succeeds (earlier.length + index)) commands reached ∧
    ended.2.started = earlier ++ reached.map (Command.startedIn place) ∧
    (ended.1 = .ok () ↔
      AllSucceed (fun index => surroundings.succeeds (earlier.length + index)) commands)

variable {earlier : List Started} {ended : Except Failure Unit × Progress}

theorem carriesOut_nil (progress : Progress) :
    CarriesOut surroundings place [] progress.started (.ok (), progress) := by
  refine ⟨[], .nil, (List.append_nil _).symm, ?_⟩
  exact iff_of_true rfl fun index below => absurd below (Nat.not_lt_zero index)

theorem carriesOut_of_failure (fails : surroundings.succeeds earlier.length = false)
    (failure : Failure) (lines : List String) :
    CarriesOut surroundings place (command :: commands) earlier
      (.error failure, ⟨lines, earlier ++ [command.startedIn place]⟩) := by
  refine ⟨[command], .failed fails, rfl, iff_of_false nofun fun all => ?_⟩
  have first := (allSucceed_cons_iff.mp all).1
  exact Bool.false_ne_true (fails.symm.trans first)

theorem CarriesOut.cons (passes : surroundings.succeeds earlier.length = true)
    (others : CarriesOut surroundings place commands (earlier ++ [command.startedIn place]) ended) :
    CarriesOut surroundings place (command :: commands) earlier ended := by
  rcases others with ⟨reached, stops, started, ends⟩
  have shifted : ∀ index, (earlier ++ [command.startedIn place]).length + index =
      earlier.length + (index + 1) := by
    intro index
    rw [List.length_append, List.length_singleton]
    omega
  simp only [shifted] at stops ends
  refine ⟨command :: reached, .cons passes stops, ?_, ?_⟩
  · rw [started, List.append_assoc]
    rfl
  · rw [ends]
    exact ⟨fun all => allSucceed_cons_iff.mpr ⟨passes, all⟩,
      fun all => (allSucceed_cons_iff.mp all).2⟩

/-- If commands can be started, the steps start them up to the first that fails. -/
theorem runSteps_of_workplace (found : surroundings.workplace = .ok place) {steps : List Step}
    (isolated : ∀ command ∈ steps.filterMap Step.command?, command.Isolated)
    (passes : .countMarkers ∈ steps → checkMarkers surroundings = .ok ()) (progress : Progress) :
    CarriesOut surroundings place (steps.filterMap Step.command?) progress.started
      (runSteps surroundings steps progress) := by
  induction steps generalizing progress with
  | nil => exact carriesOut_nil progress
  | cons step steps inductionHypothesis =>
      have laterPasses : .countMarkers ∈ steps → checkMarkers surroundings = .ok () :=
        fun member => passes (List.mem_cons_of_mem step member)
      cases step with
      | say line =>
          exact inductionHypothesis isolated laterPasses
            ⟨progress.lines ++ [line], progress.started⟩
      | countMarkers =>
          rw [runSteps_countMarkers (passes List.mem_cons_self)]
          exact inductionHypothesis isolated laterPasses progress
      | command command =>
          have others : ∀ later ∈ steps.filterMap Step.command?, later.Isolated :=
            fun later member => isolated later (List.mem_cons_of_mem command member)
          rw [runSteps_command (isolated command List.mem_cons_self) found]
          cases outcome : surroundings.succeeds progress.started.length with
          | true =>
              rw [if_pos rfl]
              exact .cons outcome (inductionHypothesis others laterPasses
                ⟨progress.lines, progress.started ++ [command.startedIn place]⟩)
          | false => exact carriesOut_of_failure outcome _ progress.lines

/-- If commands cannot be started, none is, and only steps without commands succeed. -/
theorem runSteps_of_no_workplace {error : StartError}
    (missing : surroundings.workplace = .error error) {steps : List Step}
    (isolated : ∀ command ∈ steps.filterMap Step.command?, command.Isolated)
    (progress : Progress) :
    (runSteps surroundings steps progress).2.started = progress.started ∧
      ((runSteps surroundings steps progress).1 = .ok () → steps.filterMap Step.command? = []) := by
  induction steps generalizing progress with
  | nil => exact ⟨rfl, fun _ => rfl⟩
  | cons step steps inductionHypothesis =>
      cases step with
      | say line =>
          exact inductionHypothesis isolated ⟨progress.lines ++ [line], progress.started⟩
      | countMarkers =>
          rw [runSteps, Step.run]
          rcases checkMarkers surroundings with failure | passed
          · exact ⟨rfl, nofun⟩
          · exact inductionHypothesis isolated progress
      | command command =>
          rw [runSteps, Step.run, command.run_of_isolated (isolated command List.mem_cons_self),
            missing]
          exact ⟨rfl, nofun⟩

/-! ## Whole tasks -/

theorem Task.ofName?_name (task : Task) : Task.ofName? task.name = some task := by
  cases task <;> decide

theorem Task.commands_ne_nil (task : Task) : task.commands ≠ [] := by
  cases task <;> exact List.cons_ne_nil _ _

theorem eq_verify_of_countMarkers {task : Task} (checks : Step.countMarkers ∈ task.steps) :
    task = .verify := by
  cases task with
  | verify => rfl
  | _ => exact absurd checks (by decide)

/-- The check of the markers passes exactly if enough lines are listed. -/
theorem checkMarkers_eq_ok_iff :
    checkMarkers surroundings = .ok () ↔
      ∃ place, surroundings.directory surroundings.hasGrep ["src"] = .ok place ∧
        requiredMarkers ≤ countMarkers surroundings.system place := by
  unfold checkMarkers
  rcases surroundings.directory surroundings.hasGrep ["src"] with error | sources
  · exact iff_of_false nofun nofun
  · simp only [Except.ok.injEq, exists_eq_left']
    by_cases few : countMarkers surroundings.system sources < requiredMarkers
    · rw [if_pos few]
      exact iff_of_false nofun (Nat.not_le_of_lt few)
    · rw [if_neg few]
      exact iff_of_true rfl (Nat.le_of_not_lt few)

/-- A failed check of the markers ends the task that makes it before all commands. -/
theorem run_verify_of_markers {failure : Failure}
    (fails : checkMarkers surroundings = .error failure) :
    (Task.verify.run surroundings).1 = .error failure ∧
      (Task.verify.run surroundings).2.started = [] := by
  constructor <;> simp only [Task.run, Task.steps, List.cons_append, runSteps, Step.run, fails]
  rfl

/-- What a task needs to come to its commands. -/
def Surroundings.Ready (surroundings : Surroundings) (task : Task) : Prop :=
  (∃ place, surroundings.workplace = .ok place) ∧
    (task = .verify → checkMarkers surroundings = .ok ())

theorem Task.run_of_ready {task : Task} (noProofs : task ≠ .proofs)
    (ready : surroundings.Ready task) :
    ∃ place reached, surroundings.workplace = .ok place ∧
      StopsAtFailure surroundings.succeeds task.commands reached ∧
      (task.run surroundings).2.started = reached.map (Command.startedIn place) ∧
      ((task.run surroundings).1 = .ok () ↔ AllSucceed surroundings.succeeds task.commands) := by
  rcases ready with ⟨⟨place, found⟩, passes⟩
  rcases runSteps_of_workplace found (Task.isolated noProofs)
    (fun checks => passes (eq_verify_of_countMarkers checks)) Progress.start with
    ⟨reached, stops, started, ends⟩
  simp only [Progress.start, List.length_nil, Nat.zero_add] at stops ends
  exact ⟨place, reached, found, stops, started, ends⟩

theorem Task.run_of_not_ready {task : Task} (noProofs : task ≠ .proofs)
    (unready : ¬ surroundings.Ready task) :
    (task.run surroundings).1 ≠ .ok () ∧ (task.run surroundings).2.started = [] := by
  rcases workplace : surroundings.workplace with error | place
  · rcases runSteps_of_no_workplace workplace (Task.isolated noProofs) Progress.start with
      ⟨started, ends⟩
    exact ⟨fun succeeded => task.commands_ne_nil (ends succeeded), started⟩
  · have failing : ∃ failure, task = .verify ∧ checkMarkers surroundings = .error failure := by
      by_contra noFailure
      refine unready ⟨⟨place, workplace⟩, fun same => ?_⟩
      rcases checked : checkMarkers surroundings with failure | passed
      · exact absurd ⟨failure, same, checked⟩ noFailure
      · rfl
    rcases failing with ⟨failure, rfl, fails⟩
    rcases run_verify_of_markers fails with ⟨ended, started⟩
    rw [ended]
    exact ⟨nofun, started⟩

theorem runNamed_name (surroundings : Surroundings) (task : Task) (arguments : List String) :
    (runNamed surroundings (task.name :: arguments)).started = (task.run surroundings).2.started ∧
      ((runNamed surroundings (task.name :: arguments)).code = 0 ↔
        (task.run surroundings).1 = .ok ()) := by
  have named : (task.name :: arguments).head?.bind Task.ofName? = some task := task.ofName?_name
  simp only [runNamed, named]
  rcases task.run surroundings with ⟨failure | passed, progress⟩
  · exact ⟨rfl, iff_of_false nofun nofun⟩
  · exact ⟨rfl, iff_of_true rfl rfl⟩

theorem runNamed_with_level (surroundings : Surroundings) (level : Option String) {task : Task}
    (noProofs : task ≠ .proofs) (arguments : List String) :
    runNamed { surroundings with level := level } (task.name :: arguments) =
      runNamed surroundings (task.name :: arguments) := by
  have named : (task.name :: arguments).head?.bind Task.ofName? = some task := task.ofName?_name
  have same := runSteps_with_level surroundings level (Task.isolated noProofs) Progress.start
  rw [runNamed, runNamed, named]
  simp only [Task.run, same]

/-- A task other than the proofs stops at its first failure, whatever the level outside.

If it comes to its commands, it starts them in order up to the first that fails, each with its own
level or with none; otherwise it starts nothing.  It succeeds exactly if it comes to its commands and
all of them succeed.  The verification comes to its commands only if enough lines are listed for the
markers; these are as many marked lines, unless the name of a file goes over several lines. -/
theorem run_stops_at_first_failure (surroundings : Surroundings) {task : Task}
    (noProofs : task ≠ .proofs) (arguments : List String) {ending : Ending}
    (ended : runNamed surroundings (task.name :: arguments) = ending) :
    (surroundings.Ready task → ∃ place reached, surroundings.workplace = .ok place ∧
      StopsAtFailure surroundings.succeeds task.commands reached ∧
        ending.started = reached.map (Command.startedIn place)) ∧
    (¬ surroundings.Ready task → ending.started = []) ∧
    (ending.code = 0 ↔
      surroundings.Ready task ∧ AllSucceed surroundings.succeeds task.commands) ∧
    (∀ level, runNamed { surroundings with level := level } (task.name :: arguments) = ending) ∧
    (task = .verify → ending.started ≠ [] →
      ∃ sources, surroundings.directory surroundings.hasGrep ["src"] = .ok sources ∧
        requiredMarkers ≤ countMarkers surroundings.system sources ∧
        ((∀ found ∈ markedBelow surroundings.system sources, '\n' ∉ listedName found.1) →
          requiredMarkers ≤ (markedBelow surroundings.system sources).length)) := by
  rcases runNamed_name surroundings task arguments with ⟨sameStarted, success⟩
  rw [ended] at sameStarted success
  have nothing : ¬ surroundings.Ready task → ending.started = [] :=
    fun unready => sameStarted.trans (Task.run_of_not_ready noProofs unready).2
  refine ⟨?_, nothing, ?_, ?_, ?_⟩
  · intro ready
    rcases Task.run_of_ready noProofs ready with ⟨place, reached, found, stops, started, -⟩
    exact ⟨place, reached, found, stops, sameStarted.trans started⟩
  · rw [success]
    by_cases ready : surroundings.Ready task
    · rcases Task.run_of_ready noProofs ready with ⟨place, reached, -, -, -, ends⟩
      rw [ends]
      exact (and_iff_right ready).symm
    · exact iff_of_false (Task.run_of_not_ready noProofs ready).1 fun both => ready both.1
  · intro level
    exact (runNamed_with_level surroundings level noProofs arguments).trans ended
  · intro same starts
    have ready : surroundings.Ready task := Classical.byContradiction fun unready =>
      starts (nothing unready)
    rcases checkMarkers_eq_ok_iff.mp (ready.2 same) with ⟨sources, found, enough⟩
    refine ⟨sources, found, enough, fun names => ?_⟩
    rw [← countMarkers_eq_length names]
    exact enough

/-- A project with some sources, with all tools and with a level set outside. -/
def sampleProject (sources : List (Place × String)) (succeeds : Nat → Bool) : Surroundings where
  system := .ofContents [["project", "xtask"]] sources
  current := ["project", "xtask"]
  manifest := none
  level := some "1"
  hasCargo := true
  hasGrep := true
  succeeds := succeeds

/-- If the tests fail in the third mode, those in the other two are not run. -/
theorem run_stops_at_third_failure :
    Task.levels ≠ .proofs ∧ (sampleProject [] (· != 2)).Ready .levels ∧
      (runNamed (sampleProject [] (· != 2)) ["levels"]).code ≠ 0 ∧
      (runNamed (sampleProject [] (· != 2)) ["levels"]).started =
        [⟨["project"], some "0", ["test", "--quiet"]⟩, ⟨["project"], none, ["test", "--quiet"]⟩,
          ⟨["project"], none, ["test", "--quiet", "--features", "audit"]⟩] := by
  have noProofs : Task.levels ≠ .proofs := by decide
  have workplace : (sampleProject [] (· != 2)).workplace = .ok ["project"] := by decide
  have ready : (sampleProject [] (· != 2)).Ready .levels :=
    ⟨⟨["project"], workplace⟩, nofun⟩
  rcases run_stops_at_first_failure (sampleProject [] (· != 2)) noProofs [] rfl with
    ⟨starts, -, success, -⟩
  refine ⟨noProofs, ready, fun code => ?_, ?_⟩
  · exact absurd ((success.mp code).2 2 (by decide)) (by decide)
  · rcases starts ready with ⟨place, reached, found, stops, started⟩
    cases workplace.symm.trans found
    have earlier : ∀ index < 2, (sampleProject [] (· != 2)).succeeds index = true := by decide
    have fails : (sampleProject [] (· != 2)).succeeds 2 = false := by decide
    rw [stops.eq_take earlier fails] at started
    exact started.trans (by decide)

/-- A file with one marked line and a name of five lines. -/
def brokenName : List (Place × String) :=
  [(["project", "src", "a\nb\nc\nd\ne.rs"], "// INVARIANT: x\n")]

/-- A single marked line is enough for the verification to start commands, if the name of its file
goes over five lines. -/
theorem verify_starts_with_one_marker :
    (markedBelow (sampleProject brokenName fun _ => true).system ["project", "src"]).length = 1 ∧
      (runNamed (sampleProject brokenName fun _ => true) ["verify"]).started.length = 6 := by
  decide

end Maintenance
end Assurance
