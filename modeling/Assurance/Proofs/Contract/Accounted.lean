import Assurance.Contract.Body
import Assurance.Proofs.Contract.Colouring

namespace Assurance

/-!
# Actions whose colours are accounted for

An action is accounted for if, from whatever state it starts, what it leaves
behind is reached by a run, and every colour mode that its result shows was asked
for in that run or known before.  This is closed under everything that actions
are put together from, so it holds of all that is done with contracts as long as
it holds of the handlers of the program.

A handler can do what it likes.  That it is accounted for only says that it gets
at the colour mode by asking for it or by reporting, and not in some other way.

The state may be more than a machine; a view says which machine is part of it.
-/

variable {η σ τ α β : Type} {moves : ColourSources → ColourSources → Prop}

namespace Action

open Machine

/-- The action is a run on the viewed machine, whatever happens in it, and its result shows no
colour modes but known ones and those that were asked for. -/
def Accounted (moves : ColourSources → ColourSources → Prop) (view : σ → Machine η)
    (known : ColourMode → Prop) (shown : α → ColourMode → Prop) (action : Action σ α) : Prop :=
  ∀ state, ∃ uses, Runs moves (view state) uses (view (action state).2) ∧
    ∀ value, (action state).1 = .returned value →
      ∀ mode, shown value mode → known mode ∨ ColourUse.asked mode ∈ uses

/-- An action whose result shows no colour modes. -/
def Traced (moves : ColourSources → ColourSources → Prop) (view : σ → Machine η)
    (action : Action σ α) : Prop :=
  Accounted moves view (fun _ => False) (fun _ _ => False) action

variable {view : σ → Machine η} {known : ColourMode → Prop} {action : Action σ α}
  {shown : α → ColourMode → Prop}

theorem Traced.exists_uses (traced : Traced moves view action) (state : σ) :
    ∃ uses, Runs moves (view state) uses (view (action state).2) := by
  rcases traced state with ⟨uses, runs, -⟩
  exact ⟨uses, runs⟩

theorem traced_of_exists_uses
    (runs : ∀ state, ∃ uses, Runs moves (view state) uses (view (action state).2)) :
    Traced moves view action := by
  intro state
  rcases runs state with ⟨uses, reached⟩
  exact ⟨uses, reached, fun _ _ _ impossible => impossible.elim⟩

theorem traced_of_elsewhere
    (moved : ∀ state, Elsewhere moves (view state) (view (action state).2)) :
    Traced moves view action :=
  traced_of_exists_uses fun state => ⟨[], .of_elsewhere (moved state)⟩

theorem Traced.accounted (traced : Traced moves view action)
    (plain : ∀ value mode, shown value mode → known mode) :
    Accounted moves view known shown action := by
  intro state
  rcases traced state with ⟨uses, runs, -⟩
  exact ⟨uses, runs, fun value _ mode shows => Or.inl (plain value mode shows)⟩

theorem Accounted.mono_known {more : ColourMode → Prop}
    (accounted : Accounted moves view known shown action)
    (knownMore : ∀ mode, known mode → more mode) : Accounted moves view more shown action := by
  intro state
  rcases accounted state with ⟨uses, runs, shows⟩
  refine ⟨uses, runs, fun value returned mode shown => ?_⟩
  exact (shows value returned mode shown).imp (knownMore mode) id

theorem traced_pure (value : α) : Traced moves view (pure value : Action σ α) :=
  traced_of_elsewhere fun state => .refl (view state)

theorem accounted_pure {value : α} (plain : ∀ mode, shown value mode → known mode) :
    Accounted moves view known shown (pure value : Action σ α) := by
  intro state
  refine ⟨[], .done, ?_⟩
  intro returned same mode shows
  cases same
  exact Or.inl (plain mode shows)

theorem traced_raise (payload : Payload) : Traced moves view (raise payload : Action σ α) :=
  traced_of_elsewhere fun state => .refl (view state)

theorem accounted_raise (payload : Payload) :
    Accounted moves view known shown (raise payload : Action σ α) :=
  fun _ => ⟨[], .done, nofun⟩

theorem traced_abort : Traced moves view (abort : Action σ α) :=
  traced_of_elsewhere fun state => .refl (view state)

theorem traced_read (part : σ → α) : Traced moves view (read part) :=
  traced_of_elsewhere fun state => .refl (view state)

theorem traced_update {change : σ → σ}
    (moved : ∀ state, Elsewhere moves (view state) (view (change state))) :
    Traced moves view (update change) :=
  traced_of_elsewhere moved

/-- What the first action shows is known to what follows it. -/
theorem Accounted.bind {shownLater : β → ColourMode → Prop} {next : α → Action σ β}
    (first : Accounted moves view known shown action)
    (later : ∀ value,
      Accounted moves view (fun mode => known mode ∨ shown value mode) shownLater (next value)) :
    Accounted moves view known shownLater (action >>= next) := by
  intro state
  rcases first state with ⟨uses, runs, shows⟩
  rw [bind_apply, followedBy]
  rcases ran : action state with ⟨outcome, reached⟩
  rw [ran] at runs shows
  cases outcome with
  | returned value =>
      rcases later value reached with ⟨laterUses, laterRuns, laterShows⟩
      refine ⟨uses ++ laterUses, runs.append laterRuns, ?_⟩
      intro result returned mode shown
      rcases laterShows result returned mode shown with (before | between) | after
      · exact Or.inl before
      · rcases shows value rfl mode between with before | asked
        · exact Or.inl before
        · exact Or.inr (List.mem_append_left laterUses asked)
      · exact Or.inr (List.mem_append_right uses after)
  | raised payload =>
      refine ⟨uses, runs, ?_⟩
      intro result returned
      cases returned
  | aborted =>
      refine ⟨uses, runs, ?_⟩
      intro result returned
      cases returned

/-- What follows an action that shows nothing is accounted for by itself. -/
theorem Traced.bind_accounted {shownLater : β → ColourMode → Prop} {next : α → Action σ β}
    (first : Traced moves view action)
    (later : ∀ value, Accounted moves view known shownLater (next value)) :
    Accounted moves view known shownLater (action >>= next) := by
  have silent : Accounted moves view known (fun _ _ => False) action :=
    first.accounted fun _ _ impossible => impossible.elim
  refine silent.bind fun value => ?_
  simp only [or_false]
  exact later value

theorem Traced.bind {next : α → Action σ β} (first : Traced moves view action)
    (later : ∀ value, Traced moves view (next value)) : Traced moves view (action >>= next) :=
  first.bind_accounted later

/-- A payload that is returned shows nothing. -/
theorem Accounted.attempt (accounted : Accounted moves view known shown action) :
    Accounted moves view known (fun result mode => ∃ value, result = .ok value ∧ shown value mode)
      (attempt action) := by
  intro state
  rcases accounted state with ⟨uses, runs, shows⟩
  unfold Action.attempt
  rcases ran : action state with ⟨outcome, reached⟩
  rw [ran] at runs shows
  refine ⟨uses, ?_, ?_⟩
  · cases outcome <;> exact runs
  · intro result returned mode shown
    rcases shown with ⟨value, rfl, shown⟩
    cases outcome with
    | returned given =>
        cases returned
        exact shows value rfl mode shown
    | raised payload => cases returned
    | aborted => cases returned

theorem Accounted.withHandler {shown : α → ColourMode → Prop} {action : Action (Machine η) α}
    (accounted : Accounted moves id known shown action) (handler : Handler η) :
    Accounted moves id known shown (withHandler handler action) := by
  intro machine
  rcases accounted { machine with slot := handler } with ⟨uses, runs, shows⟩
  have entered : Elsewhere moves machine { machine with slot := handler } := ⟨rfl, rfl, Or.inl rfl⟩
  have whole : Action.withHandler handler action machine =
      action.cleaningUp (fun left => { left with slot := machine.slot })
        { machine with slot := handler } := rfl
  rw [whole, cleaningUp]
  rcases ran : action { machine with slot := handler } with ⟨outcome, reached⟩
  rw [ran] at runs shows
  have left : Elsewhere moves reached { reached with slot := machine.slot } :=
    ⟨rfl, rfl, Or.inl rfl⟩
  have cleaned : Runs moves machine uses { reached with slot := machine.slot } := by
    have appended := (Runs.elsewhere entered runs).append (.of_elsewhere left)
    rw [List.append_nil] at appended
    exact appended
  cases outcome with
  | returned value => exact ⟨uses, cleaned, shows⟩
  | raised payload => exact ⟨uses, cleaned, nofun⟩
  | aborted => exact ⟨uses, .elsewhere entered runs, nofun⟩

theorem Traced.onFirst {action : Action (Machine η) α} (traced : Traced moves id action) :
    Traced moves (Prod.fst : Machine η × τ → Machine η) action.onFirst :=
  traced_of_exists_uses fun state => traced.exists_uses state.1

/-! ## Actions on a machine -/

theorem accounted_colourMode :
    Accounted moves (id : Machine η → Machine η) known (fun answer mode => answer = mode)
      colourMode := by
  intro machine
  refine ⟨[.asked machine.colourMode], .of_use (uses_asked machine), ?_⟩
  intro answer returned mode same
  cases returned
  rw [← same]
  exact Or.inr List.mem_cons_self

theorem traced_report (info : Info) : Traced moves (id : Machine η → Machine η) (report info) :=
  traced_of_exists_uses fun machine => ⟨_, .of_use (uses_wrote machine info)⟩

theorem traced_note (entry : Entry η) : Traced moves id (note entry) :=
  traced_update fun _ => ⟨rfl, rfl, Or.inl rfl⟩

theorem traced_install (handler : Handler η) : Traced moves id (install handler) :=
  traced_update fun _ => ⟨rfl, rfl, Or.inl rfl⟩

theorem traced_replace (handler : Handler η) : Traced moves id (replace handler) :=
  traced_update fun _ => ⟨rfl, rfl, Or.inl rfl⟩

theorem traced_previous (index : Nat) :
    Traced moves (id : Machine η → Machine η) (previous index) := by
  refine (traced_read Machine.guards).bind fun guards => ?_
  cases guards[index]? with
  | none => exact traced_raise .malformed
  | some kept => exact traced_pure kept

theorem traced_drop (index : Nat) : Traced moves (id : Machine η → Machine η) (drop index) := by
  refine (traced_previous index).bind fun previous => ?_
  cases previous with
  | none => exact traced_pure ()
  | some kept => exact traced_update fun _ => ⟨rfl, rfl, Or.inl rfl⟩

theorem traced_terminate (config : Config) (info : Info) :
    Traced moves (id : Machine η → Machine η) (terminate config info : Action (Machine η) α) := by
  unfold terminate
  split
  · exact traced_raise _
  · exact traced_abort

theorem traced_fatal (config : Config) (info : Info) :
    Traced moves (id : Machine η → Machine η) (fatal config info : Action (Machine η) α) :=
  (traced_report info).bind fun _ => traced_terminate config info

theorem traced_standardHandler (build : Config) (info : Info) :
    Traced moves (id : Machine η → Machine η) (standardHandler build info) := by
  refine (traced_report info).bind fun _ => ?_
  split
  · exact traced_pure ()
  · exact traced_terminate build info

theorem traced_takeInfo (raised : Option Payload) :
    Traced moves (id : Machine η → Machine η) (takeInfo raised) := by
  unfold takeInfo
  split
  · exact traced_pure none
  · exact traced_pure _
  · exact traced_raise _

end Action

open Assurance.Action

/-- The handlers of the program get at the colour mode as everything else does. -/
def Program.Traced (moves : ColourSources → ColourSources → Prop) (program : Program η) : Prop :=
  ∀ name info, Action.Traced moves id (program.handlers name info)

namespace Program

variable {program : Program η}

theorem Traced.handle (traced : program.Traced moves) (handler : Handler η) (info : Info) :
    Action.Traced moves id (program.handle handler info) := by
  cases handler with
  | standard => exact traced_standardHandler program.build info
  | raising => exact traced_raise (.info info)
  | named name => exact traced name info

theorem Traced.violated (traced : program.Traced moves) (config : Config) (info : Info) :
    Action.Traced moves id (program.violated config info) := by
  refine (traced_note _).bind fun _ => Action.Traced.bind ?_ fun _ => ?_
  · exact (traced_read Machine.slot).bind fun handler => traced.handle handler info
  · split
    · exact traced_pure ()
    · exact traced_fatal config info.tagged

theorem Traced.check (traced : program.Traced moves) (config : Config) (tier : Tier)
    (family : Family) (holds : Bool) (location : Location) :
    Action.Traced moves id (program.check config tier family holds location) := by
  unfold Program.check
  split
  · exact traced.violated config _
  · exact traced_pure ()

end Program

namespace Body

variable {ρ : Type} {view : σ → Machine η}

/-- The conditions and the block of a body get at the colour mode as everything else does. -/
inductive Traced (moves : ColourSources → ColourSources → Prop) (view : σ → Machine η) :
    Body (Action σ Bool) (ρ → Action σ Bool) (Action σ (Completion ρ)) → Prop where
  | block {written : Action σ (Completion ρ)} (traced : written.Traced moves view) :
      Traced moves view (.block written)
  | entry {tier : Tier} {condition : Action σ Bool}
      {inner : Body (Action σ Bool) (ρ → Action σ Bool) (Action σ (Completion ρ))}
      (traced : condition.Traced moves view) (inside : Traced moves view inner) :
      Traced moves view (.entry tier condition inner)
  | exit {tier : Tier} {condition : ρ → Action σ Bool}
      {inner : Body (Action σ Bool) (ρ → Action σ Bool) (Action σ (Completion ρ))}
      (inside : Traced moves view inner) (traced : ∀ result, (condition result).Traced moves view) :
      Traced moves view (.exit inner tier condition)

theorem Traced.call {check : Tier → Family → Bool → Action σ Unit}
    (checks : ∀ tier family holds, (check tier family holds).Traced moves view)
    {body : Body (Action σ Bool) (ρ → Action σ Bool) (Action σ (Completion ρ))}
    (traced : body.Traced moves view) : (body.call check).Traced moves view := by
  have runs : (body.run check).Traced moves view := by
    induction traced with
    | block written => exact written
    | entry condition inside inductionHypothesis =>
        rw [run]
        refine condition.bind fun holds => (checks _ _ holds).bind fun _ => ?_
        exact inductionHypothesis
    | exit inside condition inductionHypothesis =>
        rw [run]
        refine inductionHypothesis.bind fun completion => ?_
        refine (condition completion.value).bind fun holds => (checks _ _ holds).bind fun _ => ?_
        exact traced_pure _
  exact runs.bind fun completion => traced_pure completion.value

end Body

end Assurance
