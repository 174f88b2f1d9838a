import Assurance.Contract.Check
import Assurance.Proofs.Violation.ColourChoice
import Mathlib.Logic.Relation

namespace Assurance

/-!
# One colour mode for a whole run

The colour mode is detected by the first use and kept from then on.  Nothing but
two actions gets at what is kept: asking for the mode, and reporting a violation.
So a run is seen here as a list of such uses.  What happens between them is
arbitrary, as long as it leaves alone what is kept and the diagnostic lines; even
the sources may change, before the first use and after it, in whatever ways a
relation allows.

The invariant of a run is that a mode once kept stays, and that every use after
that is in it.  A run from a machine that keeps no mode yet is therefore in the
mode that the sources decide on at its first use.

Main statement: `Machine.Runs.exists_first`.
-/

variable {η : Type} {moves : ColourSources → ColourSources → Prop}

/-- A use of the colour mode. -/
inductive ColourUse where
  /-- The mode was asked for, and this was the answer. -/
  | asked (answer : ColourMode)
  /-- A violation was reported, with this line. -/
  | wrote (info : Info) (line : String)

namespace ColourUse

/-- A use goes by a mode. -/
def GoesBy (mode : ColourMode) : ColourUse → Prop
  | asked answer => answer = mode
  | wrote info line => line = Diagnostic.render mode info

/-- The line that a use writes, if it writes one. -/
def line? : ColourUse → Option String
  | asked _ => none
  | wrote _ line => some line

theorem exists_infos {mode : ColourMode} {uses : List ColourUse}
    (goesBy : ∀ used ∈ uses, used.GoesBy mode) :
    ∃ infos : List Info, uses.filterMap line? = infos.map (Diagnostic.render mode) := by
  induction uses with
  | nil => exact ⟨[], rfl⟩
  | cons used uses inductionHypothesis =>
      rcases List.forall_mem_cons.mp goesBy with ⟨first, others⟩
      rcases inductionHypothesis others with ⟨infos, lines⟩
      cases used with
      | asked answer => exact ⟨infos, lines⟩
      | wrote info line =>
          refine ⟨info :: infos, ?_⟩
          rw [List.map_cons, ← lines, ← first]
          rfl

end ColourUse

namespace Machine

/-- What keeps its hands off the colour mode and the lines, and changes the sources only in given
ways. -/
structure Elsewhere (moves : ColourSources → ColourSources → Prop) (before after : Machine η) :
    Prop where
  detected : after.detected = before.detected
  lines : after.lines = before.lines
  sources : after.sources = before.sources ∨ moves before.sources after.sources

theorem Elsewhere.refl (machine : Machine η) : Elsewhere moves machine machine :=
  ⟨rfl, rfl, Or.inl rfl⟩

/-- A single use of the colour mode, by one of the two actions that there are. -/
inductive Uses : Machine η → ColourUse → Machine η → Prop where
  | asked {before after : Machine η} {answer : ColourMode}
      (ran : Action.colourMode before = (.returned answer, after)) :
      Uses before (.asked answer) after
  | wrote {before after : Machine η} {info : Info} {line : String}
      (ran : Action.report info before = (.returned (), after))
      (written : after.lines = before.lines ++ [line]) : Uses before (.wrote info line) after

/-- A run of a process, as far as colours go: its uses of the colour mode, with anything else in
between. -/
inductive Runs (moves : ColourSources → ColourSources → Prop) :
    Machine η → List ColourUse → Machine η → Prop where
  | done {machine : Machine η} : Runs moves machine [] machine
  | elsewhere {before reached after : Machine η} {uses : List ColourUse}
      (moved : Elsewhere moves before reached) (rest : Runs moves reached uses after) :
      Runs moves before uses after
  | use {before reached after : Machine η} {used : ColourUse} {uses : List ColourUse}
      (first : Uses before used reached) (rest : Runs moves reached uses after) :
      Runs moves before (used :: uses) after

theorem uses_asked (machine : Machine η) :
    Uses machine (.asked machine.colourMode)
      { machine with detected := some machine.colourMode } :=
  .asked rfl

theorem uses_wrote (machine : Machine η) (info : Info) :
    Uses machine (.wrote info (Diagnostic.render machine.colourMode info))
      { machine with
        lines := machine.lines ++ [Diagnostic.render machine.colourMode info]
        detected := some machine.colourMode } :=
  .wrote rfl rfl

namespace Uses

variable {before after : Machine η} {used : ColourUse}

theorem goesBy (uses : Uses before used after) : used.GoesBy before.colourMode := by
  cases uses with
  | asked ran =>
      cases ran
      rfl
  | wrote ran written =>
      cases ran
      exact List.singleton_inj.mp (List.append_cancel_left written).symm

theorem detected (uses : Uses before used after) :
    after.detected = some before.colourMode := by
  cases uses with
  | asked ran =>
      cases ran
      rfl
  | wrote ran written =>
      cases ran
      rfl

theorem lines (uses : Uses before used after) :
    after.lines = before.lines ++ used.line?.toList := by
  cases uses with
  | asked ran =>
      cases ran
      exact (List.append_nil _).symm
  | wrote ran written => exact written

end Uses

theorem colourMode_of_detected {machine : Machine η} {mode : ColourMode}
    (detected : machine.detected = some mode) : machine.colourMode = mode := by
  rw [colourMode, detected, Option.getD_some]

theorem colourMode_of_undetected {machine : Machine η} (undetected : machine.detected = none) :
    machine.colourMode = machine.sources.detect := by
  rw [colourMode, undetected, Option.getD_none]

namespace Runs

variable {before reached after : Machine η} {uses : List ColourUse}

/-! ## Whole runs -/

theorem of_elsewhere (moved : Elsewhere moves before after) : Runs moves before [] after :=
  .elsewhere moved .done

theorem of_use {used : ColourUse} (first : Uses before used after) :
    Runs moves before [used] after :=
  .use first .done

theorem append {laterUses : List ColourUse} (runs : Runs moves before uses reached)
    (later : Runs moves reached laterUses after) : Runs moves before (uses ++ laterUses) after := by
  induction runs with
  | done => exact later
  | elsewhere moved rest inductionHypothesis => exact .elsewhere moved (inductionHypothesis later)
  | use first rest inductionHypothesis => exact .use first (inductionHypothesis later)

/-- A mode that is kept stays, and every use goes by it. -/
theorem goesBy_of_detected {mode : ColourMode} (runs : Runs moves before uses after)
    (detected : before.detected = some mode) :
    after.detected = some mode ∧ ∀ used ∈ uses, used.GoesBy mode := by
  induction runs with
  | done => exact ⟨detected, fun used member => absurd member List.not_mem_nil⟩
  | elsewhere moved rest inductionHypothesis =>
      exact inductionHypothesis (moved.detected.trans detected)
  | use first rest inductionHypothesis =>
      have kept := colourMode_of_detected detected
      have goesBy := first.goesBy
      have settled := first.detected
      rw [kept] at goesBy settled
      rcases inductionHypothesis settled with ⟨stays, others⟩
      exact ⟨stays, List.forall_mem_cons.mpr ⟨goesBy, others⟩⟩

theorem undetected_of_nil (runs : Runs moves before [] after)
    (undetected : before.detected = none) : after.detected = none := by
  generalize none : ([] : List ColourUse) = uses at runs
  induction runs with
  | done => exact undetected
  | elsewhere moved rest inductionHypothesis =>
      exact inductionHypothesis (moved.detected.trans undetected) none
  | use first rest inductionHypothesis => cases none

theorem lines (runs : Runs moves before uses after) :
    after.lines = before.lines ++ uses.filterMap ColourUse.line? := by
  induction runs with
  | done => exact (List.append_nil _).symm
  | elsewhere moved rest inductionHypothesis => rw [inductionHypothesis, moved.lines]
  | @use _ _ _ used uses first rest inductionHypothesis =>
      rw [inductionHypothesis, first.lines, List.append_assoc]
      cases used <;> rfl

/-- Without a use nothing but the sources matters. -/
theorem sources_of_nil (runs : Runs moves before [] after) :
    Relation.ReflTransGen moves before.sources after.sources := by
  generalize none : ([] : List ColourUse) = uses at runs
  induction runs with
  | done => exact .refl
  | @elsewhere before reached after uses moved rest inductionHypothesis =>
      rcases moved.sources with kept | changed
      · rw [← kept]
        exact inductionHypothesis none
      · exact (inductionHypothesis none).head changed
  | use first rest inductionHypothesis => cases none

/-- The moment of the first use divides a run. -/
theorem exists_moment {used : ColourUse} (runs : Runs moves before (used :: uses) after) :
    ∃ moment reached, Runs moves before [] moment ∧ Uses moment used reached ∧
      Runs moves reached uses after := by
  generalize whole : used :: uses = all at runs
  induction runs with
  | done => cases whole
  | elsewhere moved rest inductionHypothesis =>
      rcases inductionHypothesis whole with ⟨moment, reached, earlier, first, later⟩
      exact ⟨moment, reached, .elsewhere moved earlier, first, later⟩
  | use first rest inductionHypothesis =>
      cases whole
      exact ⟨_, _, .done, first, rest⟩

/-- In a run from a machine that keeps no mode yet, all uses go by the mode that the sources decide
on at the first one. -/
theorem exists_first {used : ColourUse} (runs : Runs moves before (used :: uses) after)
    (undetected : before.detected = none) :
    ∃ moment reached, Runs moves before [] moment ∧ Uses moment used reached ∧
      Runs moves reached uses after ∧
        ∀ other ∈ used :: uses, other.GoesBy moment.sources.detect := by
  rcases runs.exists_moment with ⟨moment, reached, earlier, first, later⟩
  have decided := colourMode_of_undetected (earlier.undetected_of_nil undetected)
  have goesBy := first.goesBy
  have settled := first.detected
  rw [decided] at goesBy settled
  have others := (later.goesBy_of_detected settled).2
  exact ⟨moment, reached, earlier, first, later, List.forall_mem_cons.mpr ⟨goesBy, others⟩⟩

end Runs

end Machine

end Assurance
