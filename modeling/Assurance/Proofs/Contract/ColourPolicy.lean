import Assurance.Contract.Script
import Assurance.Proofs.Contract.Accounted

namespace Assurance

/-!
# The colour policy in scripts

Every script is a run as far as colours go: nothing that a step can do, nested
steps and example functions included, gets at the colour mode but by asking for
it or by reporting.  So all its lines are in one mode, and so are all answers in
its results, however deep they are nested there.

Together with what the sources decide this is the whole colour policy.

Main statement: `Script.colours_follow_policy`.
-/

variable {η : Type} {moves : ColourSources → ColourSources → Prop}

open Assurance.Action

namespace Example

theorem PureBody.traced_actions {σ ρ : Type} (view : σ → Machine η) (body : PureBody ρ) :
    (PureBody.actions (σ := σ) body).Traced moves view := by
  induction body with
  | block completion => exact .block (traced_pure completion)
  | entry tier condition inner inductionHypothesis =>
      exact .entry (traced_pure condition) inductionHypothesis
  | exit inner tier condition inductionHypothesis =>
      exact .exit inductionHypothesis fun result => traced_pure (condition result)

theorem traced_bump :
    (bump : Body (Action (Machine η × UInt32) Bool) _ _).Traced moves Prod.fst := by
  have block : Traced moves Prod.fst (do
      Action.update fun ((outer, count) : Machine η × UInt32) => (outer, count + 1)
      let count ← Action.read Prod.snd
      pure (Completion.tail count)) := by
    refine Traced.bind (traced_update fun state => ?_) fun _ => ?_
    · exact .refl state.1
    · exact (traced_read Prod.snd).bind fun count => traced_pure _
  exact .exit (.entry (traced_read _) (.block block)) fun result => traced_read _

theorem traced_counting {α : Type} (start : UInt32)
    {action : Action (Machine η × UInt32) α} (traced : Traced moves Prod.fst action) :
    Traced moves id (counting start action) := by
  refine traced_of_exists_uses fun machine => ?_
  rcases traced.exists_uses (machine, start) with ⟨uses, runs⟩
  unfold counting withOwn
  rcases ran : action (machine, start) with ⟨outcome, reached, count⟩
  rw [ran] at runs
  have noted : Machine.Elsewhere moves reached
      { reached with log := reached.log ++ [.counted count.toNat] } := ⟨rfl, rfl, Or.inl rfl⟩
  have logged := runs.append (.of_elsewhere noted)
  cases outcome with
  | returned value => exact ⟨_, logged⟩
  | raised payload => exact ⟨_, logged⟩
  | aborted => exact ⟨uses, runs⟩

theorem Call.traced_run {program : Program η} (traced : program.Traced moves) (location : Location)
    (call : Call) : Traced moves id (call.run program location) := by
  have checks : ∀ tier family holds,
      Traced moves id (program.checkBuild tier family holds location) :=
    fun tier family holds => traced.check program.build tier family holds location
  have pureCall : ∀ {ρ : Type} (body : PureBody ρ) (number : ρ → Option Nat),
      Traced moves id (do
        let result ← body.actions.call fun tier family holds =>
          program.checkBuild tier family holds location
        pure (number result)) := by
    intro ρ body number
    exact (Body.Traced.call checks (body.traced_actions id)).bind fun result => traced_pure _
  cases call with
  | bump start =>
      have lifted : ∀ tier family holds,
          Traced moves (Prod.fst : Machine η × UInt32 → Machine η)
            (program.checkBuild tier family holds location).onFirst :=
        fun tier family holds => (checks tier family holds).onFirst
      exact (traced_counting start (Body.Traced.call lifted traced_bump)).bind
        fun result => traced_pure _
  | quotient dividend divisor => exact pureCall _ _
  | wrongDouble number => exact pureCall _ _
  | firstSorted items => exact pureCall _ _
  | axiomOnly => exact pureCall _ _
  | parseLength text => exact pureCall _ _
  | area width height => exact pureCall _ _

theorem traced_act {failCheck : Action (Machine HandlerName) Unit}
    (traced : Traced moves id failCheck) (name : HandlerName) (info : Info) :
    Traced moves id (act failCheck name info) := by
  have logged : Traced moves id (note (.handled name info)) := traced_note _
  cases name with
  | record => exact logged
  | record2 => exact logged
  | reinstall => exact (traced_install _).bind fun _ => logged
  | reset => exact (traced_install _).bind fun _ => logged
  | nested => exact (traced_install _).bind fun _ => logged.bind fun _ => traced
  | guarded => exact logged.bind fun _ => Accounted.withHandler traced _
  | foreign => exact logged.bind fun _ => traced_raise _
  | fatally => exact logged.bind fun _ => traced_fatal endingConfig info
  | reporting => exact logged.bind fun _ => traced_report info

theorem traced_program (build : Config) : (program build).Traced moves := by
  have inner : (innerProgram build).Traced moves :=
    fun name info => traced_act (traced_pure ()) name info
  exact fun name info => traced_act (inner.check _ _ _ _ _) name info

end Example

namespace Script

/-! ## Steps -/

/-- A value holds an answer to a question for the colour mode. -/
inductive Value.Shows : Value η → ColourMode → Prop where
  | colourMode (mode : ColourMode) : Shows (.colourMode mode) mode
  | results {results : List (Value η)} {value : Value η} {mode : ColourMode}
      (member : value ∈ results) (shows : value.Shows mode) : Shows (.results results) mode
  | caught {info : Option Info} {results : List (Value η)} {value : Value η} {mode : ColourMode}
      (member : value ∈ results) (shows : value.Shows mode) : Shows (.caught info results) mode

theorem Value.exists_of_results {results : List (Value η)} {mode : ColourMode}
    (shows : (Value.results results).Shows mode) : ∃ value ∈ results, value.Shows mode := by
  cases shows with
  | results member inside => exact ⟨_, member, inside⟩

theorem Value.exists_of_caught {info : Option Info} {results : List (Value η)} {mode : ColourMode}
    (shows : (Value.caught info results).Shows mode) : ∃ value ∈ results, value.Shows mode := by
  cases shows with
  | caught member inside => exact ⟨_, member, inside⟩

/-- The results of the steps that returned hold an answer. -/
def Finished.Shows (finished : Finished η) (mode : ColourMode) : Prop :=
  ∃ value ∈ finished.results, value.Shows mode

variable {program : Program η}

theorem accounted_silently {action : Action (Machine η) Unit} (traced : Traced moves id action) :
    Accounted moves id (fun _ => False) Value.Shows (silently action) :=
  traced.bind_accounted fun _ => accounted_pure nofun

theorem traced_evaluate (holds : Bool) :
    Traced moves (id : Machine η → Machine η) (evaluate holds) :=
  traced_note _

mutual

/-- The answers in the result of a step were given in its run. -/
theorem Step.accounted_run (traced : program.Traced moves) (site : Site) :
    ∀ step : Step η, Accounted moves id (fun _ => False) Value.Shows (step.run program site)
  | .check config tier family holds location => by
      rw [Step.run]
      exact accounted_silently ((traced_evaluate holds).bind fun _ =>
        traced.check config tier family holds location)
  | .checkBuild tier family form holds => by
      rw [Step.run]
      exact accounted_silently ((traced_evaluate holds).bind fun _ =>
        traced.check program.build tier family holds _)
  | .call call => by
      rw [Step.run]
      exact (call.traced_run traced _).bind_accounted fun number => accounted_pure nofun
  | .install handler => by
      rw [Step.run]
      exact accounted_silently (traced_install handler)
  | .reset => by
      rw [Step.run]
      exact accounted_silently (traced_install .standard)
  | .replace handler => by
      rw [Step.run]
      exact accounted_silently (traced_replace handler)
  | .previous index => by
      rw [Step.run]
      exact (traced_previous index).bind_accounted fun kept => accounted_pure nofun
  | .drop index => by
      rw [Step.run]
      exact accounted_silently (traced_drop index)
  | .standardHandler info => by
      rw [Step.run]
      exact accounted_silently (traced_standardHandler program.build info)
  | .report info => by
      rw [Step.run]
      exact accounted_silently (traced_report info)
  | .fatal config info => by
      rw [Step.run]
      exact accounted_silently (traced_fatal config info)
  | .colourMode => by
      rw [Step.run]
      refine accounted_colourMode.bind fun mode => accounted_pure ?_
      rintro shown ⟨⟩
      exact Or.inr rfl
  | .scope handler steps => by
      rw [Step.run]
      refine Accounted.withHandler ?_ handler
      refine (accounted_runUntilRaised traced site steps).bind fun finished => ?_
      cases finished.raised with
      | none => exact accounted_pure fun mode shows => Or.inr (Value.exists_of_results shows)
      | some payload => exact accounted_raise payload
  | .catching steps => by
      rw [Step.run]
      refine Accounted.withHandler ?_ .raising
      refine (accounted_runUntilRaised traced site steps).bind fun finished => ?_
      refine (traced_takeInfo finished.raised).bind_accounted fun info => ?_
      exact accounted_pure fun mode shows => Or.inr (Value.exists_of_caught shows)
  | .malformed (some holds) => by
      rw [Step.run]
      exact (traced_evaluate holds).bind_accounted fun _ => accounted_raise .malformed
  | .malformed none => by
      rw [Step.run]
      exact (traced_pure ()).bind_accounted fun _ => accounted_raise .malformed

theorem accounted_runUntilRaised (traced : program.Traced moves) (site : Site) :
    ∀ steps : List (Step η),
      Accounted moves id (fun _ => False) Finished.Shows (runUntilRaised program site steps)
  | [] => by
      rw [runUntilRaised]
      refine accounted_pure ?_
      rintro mode ⟨value, member, -⟩
      cases member
  | step :: steps => by
      rw [runUntilRaised]
      refine (Step.accounted_run traced site step).attempt.bind fun result => ?_
      cases result with
      | error payload =>
          refine accounted_pure ?_
          rintro mode ⟨value, member, -⟩
          cases member
      | ok first =>
          have rest := accounted_runUntilRaised traced site steps
          refine (rest.mono_known fun _ => False.elim).bind fun finished => accounted_pure ?_
          rintro mode ⟨value, member, shows⟩
          rcases List.mem_cons.mp member with rfl | member
          · exact Or.inl (Or.inr ⟨value, rfl, shows⟩)
          · exact Or.inr ⟨value, member, shows⟩

end

/-- The lines of a script, and the answers in its results, come from the uses of one run. -/
theorem exists_runs (traced : program.Traced moves) (site : Site) (steps : List (Step η))
    (machine : Machine η) :
    ∃ uses after, Machine.Runs moves machine uses after ∧
      (run program site steps machine).lines = after.lines ∧
        ∀ report ∈ (run program site steps machine).finished, ∀ value,
          report.result = .ok value → ∀ mode, value.Shows mode → ColourUse.asked mode ∈ uses := by
  induction steps generalizing machine with
  | nil => exact ⟨[], machine, .done, rfl, fun report member => absurd member List.not_mem_nil⟩
  | cons step steps inductionHypothesis =>
      -- Every step starts with an empty log.
      have entered : Machine.Elsewhere moves machine { machine with log := [] } :=
        ⟨rfl, rfl, Or.inl rfl⟩
      rcases Step.accounted_run traced site step { machine with log := [] } with
        ⟨uses, runs, shows⟩
      rw [run]
      rcases ran : step.run program site { machine with log := [] } with ⟨outcome, reached⟩
      rw [ran] at runs shows
      rcases inductionHypothesis reached with ⟨laterUses, after, laterRuns, lines, laterShows⟩
      have whole := (Machine.Runs.elsewhere entered runs).append laterRuns
      cases outcome with
      | aborted =>
          exact ⟨uses, reached, .elsewhere entered runs, rfl,
            fun report member => absurd member List.not_mem_nil⟩
      | raised payload =>
          refine ⟨uses ++ laterUses, after, whole, lines, ?_⟩
          intro report member value returned mode shown
          rcases List.mem_cons.mp member with rfl | later
          · cases returned
          · exact List.mem_append_right uses (laterShows report later value returned mode shown)
      | returned first =>
          refine ⟨uses ++ laterUses, after, whole, lines, ?_⟩
          intro report member value returned mode shown
          rcases List.mem_cons.mp member with rfl | later
          · cases returned
            rcases shows first rfl mode shown with impossible | asked
            · exact impossible.elim
            · exact List.mem_append_left laterUses asked
          · exact List.mem_append_right uses (laterShows report later value returned mode shown)

/-- A whole run goes by a mode: every line it adds to earlier ones is rendered in it, and it is the
answer wherever the mode was asked for. -/
structure Run.GoesBy (mode : ColourMode) (earlier : List String) (run : Run η) : Prop where
  lines : ∃ infos : List Info, run.lines = earlier ++ infos.map (Diagnostic.render mode)
  answers : ∀ report ∈ run.finished, ∀ value, report.result = .ok value →
    ∀ answer, value.Shows answer → answer = mode

theorem exists_goesBy (traced : program.Traced moves) (site : Site) (steps : List (Step η))
    {machine : Machine η} (undetected : machine.detected = none) :
    ∃ found, Relation.ReflTransGen moves machine.sources found ∧
      (run program site steps machine).GoesBy found.detect machine.lines := by
  rcases exists_runs traced site steps machine with ⟨uses, after, runs, lines, shows⟩
  have decided : ∃ found, Relation.ReflTransGen moves machine.sources found ∧
      ∀ used ∈ uses, used.GoesBy found.detect := by
    cases uses with
    | nil => exact ⟨machine.sources, .refl, fun used member => absurd member List.not_mem_nil⟩
    | cons used others =>
        rcases runs.exists_first undetected with ⟨moment, reached, earlier, -, -, goesBy⟩
        exact ⟨moment.sources, earlier.sources_of_nil, goesBy⟩
  rcases decided with ⟨found, reachable, goesBy⟩
  refine ⟨found, reachable, ⟨?_, ?_⟩⟩
  · rcases ColourUse.exists_infos goesBy with ⟨infos, rendered⟩
    exact ⟨infos, by rw [lines, runs.lines, rendered]⟩
  · intro report member value returned answer shown
    exact goesBy _ (shows report member value returned answer shown)

/-- The colour policy.  The sources decide as described by `IsOn` and `IsOff`, whatever mapping to
lowercase is meant there; all uses in a run of a process go by what they decided at the first use;
and so does every script, wherever its handlers ask for the mode or report. -/
theorem colours_follow_policy (lowers : Lowercasing)
    (moves : ColourSources → ColourSources → Prop) :
    (∀ sources : ColourSources, sources.detect = .ansi ↔
      ColourSources.IsOn lowers sources.choice ∨
        (¬ ColourSources.IsOn lowers sources.choice ∧
          ¬ ColourSources.IsOff lowers sources.choice) ∧
          (sources.noColour = none ∨ sources.noColour = some []) ∧ sources.terminal = true) ∧
    (∀ (before after : Machine η) (first : ColourUse) (others : List ColourUse),
      before.detected = none → Machine.Runs moves before (first :: others) after →
        ∃ moment reached, Machine.Runs moves before [] moment ∧
          Machine.Uses moment first reached ∧ Machine.Runs moves reached others after ∧
            ∀ used ∈ first :: others, used.GoesBy moment.sources.detect) ∧
    ∀ (program : Program η) (site : Site) (steps : List (Step η)) (machine : Machine η),
      program.Traced moves → machine.detected = none →
        ∃ found, Relation.ReflTransGen moves machine.sources found ∧
          (run program site steps machine).GoesBy found.detect machine.lines := by
  refine ⟨ColourSources.detect_eq_ansi_iff lowers, ?_, ?_⟩
  · intro before after first others undetected runs
    exact runs.exists_first undetected
  · intro program site steps machine traced undetected
    exact exists_goesBy traced site steps undetected

/-- A choice in mixed case wins over a request for no colour, in the handler's report as in the
answer. -/
theorem colours_follow_policy_reporting :
    (Example.program Example.endingConfig).Traced (fun _ _ => False) ∧
      (Machine.initial ⟨some (ByteString.ofText "Always"), some [49], false⟩ :
        Machine Example.HandlerName).detected = none ∧
      (run (Example.program Example.endingConfig) ⟨"main.rs", 1, 1, "main", "main"⟩
        [.install (.named .reporting), .checkBuild .audit .assertion .plain false, .colourMode]
        (Machine.initial ⟨some (ByteString.ofText "Always"), some [49], false⟩)).GoesBy
          .ansi [] := by
  have traced : (Example.program Example.endingConfig).Traced (fun _ _ => False) :=
    Example.traced_program _
  rcases colours_follow_policy ColourSources.lowercasing (fun _ _ => False) with
    ⟨decides, -, scripts⟩
  have decided :
      ColourSources.detect ⟨some (ByteString.ofText "Always"), some [49], false⟩ = .ansi :=
    (decides _).mpr (Or.inl ⟨"Always", rfl, by decide⟩)
  rcases scripts _ ⟨"main.rs", 1, 1, "main", "main"⟩
    [.install (.named .reporting), .checkBuild .audit .assertion .plain false, .colourMode]
    (Machine.initial ⟨some (ByteString.ofText "Always"), some [49], false⟩) traced rfl with
    ⟨found, reachable, goesBy⟩
  rw [Relation.reflTransGen_iff_eq fun _ impossible => impossible] at reachable
  rw [reachable, Machine.initial, decided] at goesBy
  exact ⟨traced, rfl, goesBy⟩

end Script

end Assurance
