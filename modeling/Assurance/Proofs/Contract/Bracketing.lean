import Assurance.Contract.Script

namespace Assurance

/-!
# The handler slot around scopes and guards

A scope remembers the handler installed when it is entered and puts it back when
it is left, by returning or by raising.  What runs inside is arbitrary, nested
scopes, failing checks and the handlers they call included, so nothing about the
slot or the guards has to survive the inside for this to hold.

Guards that a script holds itself are different: each one puts back what it
keeps, whatever the slot holds by then.  Dropped in reverse order of their
creation, the last one puts back the handler installed before the first.  The
invariant of such a run is what the guards held at a moment would put back if
they were dropped at once.

Main statement: `Script.slot_bracketing`.
-/

variable {η α : Type}

namespace Machine

/-- The machine with another handler installed. -/
def installing (machine : Machine η) (handler : Handler η) : Machine η :=
  { machine with slot := handler }

/-- The machine with another handler installed and the earlier one in a new guard. -/
def replacing (machine : Machine η) (handler : Handler η) : Machine η :=
  { machine with slot := handler, guards := machine.guards ++ [some machine.slot] }

/-- The machine once a guard that keeps a given handler has been dropped. -/
def dropping (machine : Machine η) (index : Nat) (kept : Handler η) : Machine η :=
  { machine with slot := kept, guards := machine.guards.set index none }

/-- A guard is held, and keeps a given handler. -/
def Keeps (machine : Machine η) (index : Nat) (kept : Handler η) : Prop :=
  machine.guards[index]? = some (some kept)

theorem Keeps.append {machine : Machine η} {index : Nat} {kept : Handler η}
    (keeps : machine.Keeps index kept) (guards : List (Option (Handler η))) :
    (machine.guards ++ guards)[index]? = some (some kept) := by
  rcases List.getElem?_eq_some_iff.mp keeps with ⟨inside, _⟩
  exact (List.getElem?_append_left inside).trans keeps

/-- A new guard keeps what was installed before. -/
theorem keeps_replacing (machine : Machine η) (handler : Handler η) :
    (machine.replacing handler).Keeps machine.guards.length machine.slot :=
  List.getElem?_concat_length

end Machine

namespace Action

/-- Whatever an action does to the slot, the earlier handler is back once the action has returned
or raised. -/
theorem slot_withHandler {handler : Handler η} {action : Action (Machine η) α}
    {machine after : Machine η} {outcome : Outcome α}
    (ran : withHandler handler action machine = (outcome, after))
    (finished : outcome ≠ .aborted) : after.slot = machine.slot := by
  have cleaned : (action.cleaningUp fun left => left.installing machine.slot)
      (machine.installing handler) = (outcome, after) := ran
  rcases inside : action (machine.installing handler) with ⟨inner, reached⟩
  rw [cleaningUp, inside] at cleaned
  cases inner with
  | returned value =>
      cases cleaned
      rfl
  | raised payload =>
      cases cleaned
      rfl
  | aborted =>
      cases cleaned
      exact absurd rfl finished

theorem previous_apply_of_keeps {machine : Machine η} {index : Nat} {kept : Handler η}
    (keeps : machine.Keeps index kept) :
    previous index machine = (.returned (some kept), machine) := by
  have found : machine.guards[index]? = some (some kept) := keeps
  simp only [previous, bind_apply, followedBy, read, found]
  rfl

/-- Asking a guard changes nothing, even if there is no such guard. -/
theorem snd_previous (index : Nat) (machine : Machine η) :
    (previous index machine).2 = machine := by
  simp only [previous, bind_apply, followedBy, read]
  cases machine.guards[index]? <;> rfl

theorem drop_apply_of_keeps {machine : Machine η} {index : Nat} {kept : Handler η}
    (keeps : machine.Keeps index kept) :
    drop index machine = (.returned (), machine.dropping index kept) := by
  simp only [drop, bind_apply, followedBy, previous_apply_of_keeps keeps]
  rfl

/-- Dropping a guard changes no other one. -/
theorem getElem?_guards_drop {index other : Nat} (distinct : other ≠ index)
    (machine : Machine η) :
    (drop other machine).2.guards[index]? = machine.guards[index]? := by
  simp only [drop, bind_apply, followedBy, previous, read]
  cases machine.guards[other]? with
  | none => rfl
  | some kept =>
      cases kept with
      | none => rfl
      | some handler => exact List.getElem?_set_ne distinct

end Action

namespace Script

open Assurance.Action

variable {program : Program η} {site : Site}

/-! ## Runs of steps -/

/-- All of some steps return, and leave a given machine behind. -/
def Completes (program : Program η) (site : Site) (steps : List (Step η))
    (machine after : Machine η) : Prop :=
  ∃ results, runUntilRaised program site steps machine = (.returned ⟨results, none⟩, after)

theorem runUntilRaised_nil_apply (machine : Machine η) :
    runUntilRaised program site [] machine = (.returned ⟨[], none⟩, machine) := by
  rw [runUntilRaised]
  rfl

theorem runUntilRaised_cons_apply (step : Step η) (steps : List (Step η)) (machine : Machine η) :
    runUntilRaised program site (step :: steps) machine =
      match step.run program site machine with
      | (.returned value, reached) =>
          match runUntilRaised program site steps reached with
          | (.returned finished, after) =>
              (.returned { finished with results := value :: finished.results }, after)
          | (.raised payload, after) => (.raised payload, after)
          | (.aborted, after) => (.aborted, after)
      | (.raised payload, reached) => (.returned ⟨[], some payload⟩, reached)
      | (.aborted, reached) => (.aborted, reached) := by
  simp only [runUntilRaised, bind_apply, followedBy, attempt]
  rcases step.run program site machine with ⟨outcome, reached⟩
  cases outcome with
  | returned value =>
      simp only [bind_apply, followedBy]
      rcases runUntilRaised program site steps reached with ⟨ended, after⟩
      cases ended <;> rfl
  | raised payload => rfl
  | aborted => rfl

theorem completes_nil (machine : Machine η) : Completes program site [] machine machine :=
  ⟨[], runUntilRaised_nil_apply machine⟩

theorem Completes.cons {step : Step η} {steps : List (Step η)} {value : Value η}
    {machine reached after : Machine η}
    (ran : step.run program site machine = (.returned value, reached))
    (rest : Completes program site steps reached after) :
    Completes program site (step :: steps) machine after := by
  rcases rest with ⟨results, finished⟩
  refine ⟨value :: results, ?_⟩
  rw [runUntilRaised_cons_apply, ran]
  simp only [finished]

theorem snd_runUntilRaised_cons {step : Step η} (steps : List (Step η)) {value : Value η}
    {machine reached : Machine η}
    (ran : step.run program site machine = (.returned value, reached)) :
    (runUntilRaised program site (step :: steps) machine).2 =
      (runUntilRaised program site steps reached).2 := by
  rw [runUntilRaised_cons_apply, ran]
  rcases finished : runUntilRaised program site steps reached with ⟨ended, after⟩
  simp only [finished]
  cases ended <;> rfl

/-- What every step of a run preserves holds after it, however the run ends. -/
theorem holds_after_run (Holds : Machine η → Prop) {steps : List (Step η)}
    (preserved : ∀ step ∈ steps, ∀ machine,
      Holds machine → Holds (step.run program site machine).2)
    {machine : Machine η} (before : Holds machine) :
    Holds (runUntilRaised program site steps machine).2 := by
  induction steps generalizing machine with
  | nil =>
      rw [runUntilRaised_nil_apply]
      exact before
  | cons step steps inductionHypothesis =>
      have stepped := preserved step List.mem_cons_self machine before
      have rest : ∀ other ∈ steps, ∀ reached,
          Holds reached → Holds (other.run program site reached).2 :=
        fun other member => preserved other (List.mem_cons_of_mem step member)
      rcases ran : step.run program site machine with ⟨outcome, reached⟩
      rw [ran] at stepped
      cases outcome with
      | returned value =>
          rw [snd_runUntilRaised_cons steps ran]
          exact inductionHypothesis rest stepped
      | raised payload =>
          rw [runUntilRaised_cons_apply, ran]
          exact stepped
      | aborted =>
          rw [runUntilRaised_cons_apply, ran]
          exact stepped

/-- A step that runs others inside a scope of its own. -/
def Step.OpensScope : Step η → Prop
  | .scope _ _ | .catching _ => True
  | _ => False

theorem Step.slot_of_opensScope {step : Step η} (opens : step.OpensScope)
    {machine after : Machine η} {outcome : Outcome (Value η)}
    (ran : step.run program site machine = (outcome, after)) (finished : outcome ≠ .aborted) :
    after.slot = machine.slot := by
  cases step with
  | scope handler steps =>
      rw [Step.run] at ran
      exact slot_withHandler ran finished
  | catching steps =>
      rw [Step.run] at ran
      exact slot_withHandler ran finished
  | _ => exact opens.elim

/-! ## Guards dropped in reverse order -/

/-- Steps on the slot that drop all guards, those held before them and those they create, and end
with the last of them.  The guards held are listed with the youngest first, and only the youngest
can be dropped.  A handler is installed only while some guard is held. -/
inductive DropsInReverse : (created : Nat) → (held : List Nat) → List (Step η) → Prop where
  | done {created : Nat} : DropsInReverse created [] []
  | install {created index : Nat} {held : List Nat} {steps : List (Step η)} (handler : Handler η)
      (rest : DropsInReverse created (index :: held) steps) :
      DropsInReverse created (index :: held) (.install handler :: steps)
  | reset {created index : Nat} {held : List Nat} {steps : List (Step η)}
      (rest : DropsInReverse created (index :: held) steps) :
      DropsInReverse created (index :: held) (.reset :: steps)
  | replace {created : Nat} {held : List Nat} {steps : List (Step η)} (handler : Handler η)
      (rest : DropsInReverse (created + 1) (created :: held) steps) :
      DropsInReverse created held (.replace handler :: steps)
  | drop {created index : Nat} {held : List Nat} {steps : List (Step η)}
      (rest : DropsInReverse created held steps) :
      DropsInReverse created (index :: held) (.drop index :: steps)

/-- The handler that is installed once the guards of a list have been dropped one after the
other. -/
def Restores (machine : Machine η) : List Nat → Handler η → Prop
  | [], earliest => machine.slot = earliest
  | index :: held, earliest =>
      ∃ kept, machine.Keeps index kept ∧ Restores (machine.dropping index kept) held earliest

/-- With a guard held, the slot itself does not matter. -/
theorem Restores.installing {machine : Machine η} {index : Nat} {held : List Nat}
    {earliest : Handler η} (restores : Restores machine (index :: held) earliest)
    (handler : Handler η) : Restores (machine.installing handler) (index :: held) earliest :=
  restores

theorem Restores.append_none {machine : Machine η} {held : List Nat} {earliest : Handler η}
    (restores : Restores machine held earliest) :
    Restores { machine with guards := machine.guards ++ [none] } held earliest := by
  induction held generalizing machine with
  | nil => exact restores
  | cons index held inductionHypothesis =>
      rcases restores with ⟨kept, keeps, rest⟩
      rcases List.getElem?_eq_some_iff.mp keeps with ⟨inside, _⟩
      refine ⟨kept, keeps.append [none], ?_⟩
      · have dropped : ({ machine with guards := machine.guards ++ [none] }).dropping index kept =
            { machine.dropping index kept with
              guards := (machine.dropping index kept).guards ++ [none] } := by
          simp only [Machine.dropping, List.set_append_left index none inside]
        rw [dropped]
        exact inductionHypothesis rest

/-- A new guard restores what was installed before, and below it the older ones what they did. -/
theorem Restores.replacing {machine : Machine η} {held : List Nat} {earliest : Handler η}
    (restores : Restores machine held earliest) (handler : Handler η) :
    Restores (machine.replacing handler) (machine.guards.length :: held) earliest := by
  refine ⟨machine.slot, machine.keeps_replacing handler, ?_⟩
  have dropped : (machine.replacing handler).dropping machine.guards.length machine.slot =
      { machine with guards := machine.guards ++ [none] } := by
    simp [Machine.replacing, Machine.dropping]
  rw [dropped]
  exact restores.append_none

/-- Such steps all return, and end with the handler that the guards restore. -/
theorem completes_of_dropsInReverse {created : Nat} {held : List Nat} {steps : List (Step η)}
    (drops : DropsInReverse created held steps) {machine : Machine η} {earliest : Handler η}
    (counted : machine.guards.length = created) (restores : Restores machine held earliest) :
    ∃ after, Completes program site steps machine after ∧ after.slot = earliest := by
  induction drops generalizing machine with
  | done => exact ⟨machine, completes_nil machine, restores⟩
  | install handler rest inductionHypothesis =>
      have continued := @inductionHypothesis (machine.installing handler) counted
        (restores.installing handler)
      rcases continued with ⟨after, completes, ends⟩
      exact ⟨after, completes.cons (by rw [Step.run]; rfl), ends⟩
  | reset rest inductionHypothesis =>
      have continued := @inductionHypothesis (machine.installing .standard) counted
        (restores.installing .standard)
      rcases continued with ⟨after, completes, ends⟩
      exact ⟨after, completes.cons (by rw [Step.run]; rfl), ends⟩
  | replace handler rest inductionHypothesis =>
      subst counted
      have continued := @inductionHypothesis (machine.replacing handler)
        (by simp [Machine.replacing]) (restores.replacing handler)
      rcases continued with ⟨after, completes, ends⟩
      exact ⟨after, completes.cons (by rw [Step.run]; rfl), ends⟩
  | @drop created index held steps rest inductionHypothesis =>
      rcases restores with ⟨kept, keeps, below⟩
      have continued := @inductionHypothesis (machine.dropping index kept)
        (by simpa [Machine.dropping] using counted) below
      rcases continued with ⟨after, completes, ends⟩
      have ran : (Step.drop index).run program site machine =
          (.returned .nothing, machine.dropping index kept) := by
        rw [Step.run, silently, bind_apply, followedBy, drop_apply_of_keeps keeps]
        rfl
      exact ⟨after, completes.cons ran, ends⟩

/-- A step on the slot and the guards that does not drop a given guard. -/
def Step.Spares (index : Nat) : Step η → Prop
  | .install _ | .reset | .replace _ | .previous _ => True
  | .drop other => other ≠ index
  | _ => False

theorem Step.keeps_of_spares {step : Step η} {index : Nat} (spares : step.Spares index)
    {kept : Handler η} {machine : Machine η} (keeps : machine.Keeps index kept) :
    (step.run program site machine).2.Keeps index kept := by
  cases step with
  | install handler =>
      rw [Step.run]
      exact keeps
  | reset =>
      rw [Step.run]
      exact keeps
  | replace handler =>
      rw [Step.run]
      exact keeps.append [some machine.slot]
  | previous other =>
      have unchanged := snd_previous other machine
      rw [Step.run, bind_apply, followedBy]
      rcases asked : Action.previous other machine with ⟨outcome, after⟩
      rw [asked] at unchanged
      cases unchanged
      cases outcome <;> exact keeps
  | drop other =>
      have untouched := (getElem?_guards_drop spares machine).trans keeps
      rw [Step.run, silently, bind_apply, followedBy]
      rcases dropped : Action.drop other machine with ⟨outcome, after⟩
      rw [dropped] at untouched
      cases outcome <;> exact untouched
  | _ => exact spares.elim

/-- Until it is dropped, a guard keeps the handler installed just before its creation. -/
theorem previous_after_replace {handler : Handler η} {steps : List (Step η)}
    {machine : Machine η} (spare : ∀ step ∈ steps, step.Spares machine.guards.length) :
    let after := (runUntilRaised program site (.replace handler :: steps) machine).2
    Action.previous machine.guards.length after = (.returned (some machine.slot), after) := by
  have ran : (Step.replace handler).run program site machine =
      (.returned .nothing, machine.replacing handler) := by
    rw [Step.run]
    rfl
  have keeps : (runUntilRaised program site steps (machine.replacing handler)).2.Keeps
      machine.guards.length machine.slot :=
    holds_after_run (fun reached => reached.Keeps machine.guards.length machine.slot)
      (fun step member _ before => step.keeps_of_spares (spare step member) before)
      (machine.keeps_replacing handler)
  rw [snd_runUntilRaised_cons steps ran]
  exact previous_apply_of_keeps keeps

/-- A scope that is left by returning or by raising leaves the slot as it found it.  What happens
inside is any action at all, so it may also drop guards on its way out; the steps that open scopes
are cases of this.  Steps that drop the guards they create in reverse order, with handlers installed
and reset in between, all return and end with the handler installed before them.  And each guard
keeps the handler installed just before its creation for as long as it is held. -/
theorem slot_bracketing (program : Program η) (site : Site) :
    (∀ (α : Type) (handler : Handler η) (inside : Action (Machine η) α)
      (machine after : Machine η) (outcome : Outcome α),
      withHandler handler inside machine = (outcome, after) → outcome ≠ .aborted →
        after.slot = machine.slot) ∧
    (∀ (step : Step η) (machine after : Machine η) (outcome : Outcome (Value η)),
      step.OpensScope → step.run program site machine = (outcome, after) → outcome ≠ .aborted →
        after.slot = machine.slot) ∧
    (∀ (steps : List (Step η)) (machine : Machine η),
      DropsInReverse machine.guards.length [] steps →
        ∃ after, Completes program site steps machine after ∧ after.slot = machine.slot) ∧
    (∀ (handler : Handler η) (steps : List (Step η)) (machine : Machine η),
      (∀ step ∈ steps, step.Spares machine.guards.length) →
        let after := (runUntilRaised program site (.replace handler :: steps) machine).2
        Action.previous machine.guards.length after = (.returned (some machine.slot), after)) := by
  refine ⟨?_, ?_, ?_, ?_⟩
  · intro α handler inside machine after outcome ran finished
    exact slot_withHandler ran finished
  · intro step machine after outcome opens ran finished
    exact step.slot_of_opensScope opens ran finished
  · intro steps machine drops
    exact completes_of_dropsInReverse drops rfl rfl
  · intro handler steps machine spare
    exact previous_after_replace spare

/-- Two nested guards with installations before, between and after their drops. -/
theorem slot_after_nested_guards :
    ∃ after, Completes (⟨.ofLevel .audit, nofun⟩ : Program Empty) ⟨"", 0, 0, "", ""⟩
      [.replace .raising, .reset, .replace .standard, .install .raising, .drop 1, .reset, .drop 0]
      (Machine.initial ⟨none, none, false⟩) after ∧ after.slot = .standard :=
  (slot_bracketing _ _).2.2.1 _ (Machine.initial ⟨none, none, false⟩)
    (.replace .raising (.reset (.replace .standard (.install .raising (.drop (.reset
      (.drop .done)))))))

end Script

end Assurance
