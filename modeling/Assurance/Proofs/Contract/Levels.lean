import Assurance.Proofs.Contract.Demand
import Assurance.Proofs.Contract.Layers
import Mathlib.Data.List.Basic

namespace Assurance

/-!
# Reports at different levels

Two runs of the same checks at different levels differ in what they find, and in
nothing else.  Checks that find nothing leave no trace, so a run is the sequence of
its violations, and a higher level only puts further violations between those that
a lower one finds as well.

What a handler is given in a run is observed here through a handler that does
nothing but write its calls down.  Where the configuration goes on, every other
handler that returns and keeps its place in the slot is given the same records, in
the same order, whatever else it does.

Main statement: `reports_monotone`.
-/

variable {η : Type}

namespace Level

theorem number_ofNumber (number : Nat) : (ofNumber number).number = min number 2 := by
  match number with
  | 0 | 1 | _ + 2 => simp [ofNumber, Level.number]

end Level

/-- A tier that is live at one level is live at every higher one. -/
theorem Tier.isActive_of_le {tier : Tier} {low high : Level} (levels : low.number ≤ high.number)
    (active : tier.isActive low = true) : tier.isActive high = true := by
  cases tier with
  | default =>
      have reached : Level.default.number ≤ low.number := of_decide_eq_true active
      exact decide_eq_true (Nat.le_trans reached levels)
  | audit =>
      have reached : Level.audit.number ≤ low.number := of_decide_eq_true active
      exact decide_eq_true (Nat.le_trans reached levels)
  | assumed => cases active

namespace Demand

open Assurance.Action

/-- The records of the demands that fail at a level. -/
def found (level : Level) (demands : List Demand) : List Info :=
  (demands.filter (fails level)).map info

theorem found_sublist {low high : Level} (levels : low.number ≤ high.number)
    (demands : List Demand) : (found low demands).Sublist (found high demands) := by
  have fewer : ∀ demand : Demand, demand.fails low = true → demand.fails high = true := by
    intro demand failing
    rcases Bool.and_eq_true_iff.mp failing with ⟨active, broken⟩
    exact Bool.and_eq_true_iff.mpr ⟨Tier.isActive_of_le levels active, broken⟩
  exact (List.monotone_filter_right demands fewer).map info

theorem found_disabled (demands : List Demand) : found .disabled demands = [] := by
  have none : ∀ demand : Demand, demand.fails .disabled = false := by
    intro demand
    have dead : demand.tier.isActive .disabled = false := by
      cases demand.tier <;> rfl
    rw [fails, dead, Bool.false_and]
  simp [found, none]

theorem found_filter_assumed (level : Level) (demands : List Demand) :
    found level (demands.filter (·.tier ≠ .assumed)) = found level demands := by
  have kept : ∀ demand : Demand,
      (demand.fails level && decide (demand.tier ≠ .assumed)) = demand.fails level := by
    intro demand
    cases tier : demand.tier <;> simp [fails, tier, Tier.isActive]
  simp only [found, List.filter_filter, kept]

/-- Check demands one after the other under one configuration. -/
def runAll (program : Program η) (config : Config) (demands : List Demand) :
    Action (Machine η) Unit :=
  inSequence (demands.map (run program config))

/-- A run is the sequence of the violations that its level finds. -/
theorem runAll_eq (program : Program η) (config : Config) (demands : List Demand) :
    runAll program config demands =
      inSequence ((found config.level demands).map (program.violated config)) := by
  induction demands with
  | nil => rfl
  | cons demand demands inductionHypothesis =>
      have unfolded : runAll program config (demand :: demands) =
          (do demand.run program config; runAll program config demands) := rfl
      rw [unfolded, inductionHypothesis]
      cases failing : demand.fails config.level with
      | false =>
          rw [run_of_passes failing, pure_bind_eq, found, found,
            List.filter_cons_of_neg (by simp [failing])]
      | true =>
          rw [run_of_fails failing, found, found, List.filter_cons_of_pos failing]
          rfl

end Demand

/-! ## Handlers that return in place -/

namespace Program

open Assurance.Action

variable {program : Program η}

/-- A handler that returns whenever it is called, and is still installed then. -/
def ReturnsInPlace (program : Program η) (handler : Handler η) : Prop :=
  ∀ info machine, machine.slot = handler →
    ∃ after, program.handle handler info machine = (.returned (), after) ∧ after.slot = handler

/-- The machine once a violation that the program survives has been logged and the installed
handler has returned from its record. -/
def handing (program : Program η) (machine : Machine η) (info : Info) : Machine η :=
  (program.handle machine.slot info (machine.logging (.event .warning info))).2

theorem violated_apply_of_returnsInPlace {handler : Handler η}
    (returns : program.ReturnsInPlace handler) {config : Config}
    (continues : config.continues = true) (info : Info) {machine : Machine η}
    (installed : machine.slot = handler) :
    program.violated config info machine = (.returned (), program.handing machine info) ∧
      (program.handing machine info).slot = handler := by
  have severity : config.severity = .warning := if_pos continues
  rcases returns info (machine.logging (.event .warning info)) installed with
    ⟨after, handled, stays⟩
  have handed : program.handing machine info = after := by
    rw [handing, installed, handled]
  rw [violated_apply, severity, installed, handled, handed]
  exact ⟨if_pos continues, stays⟩

theorem inSequence_violated_apply {handler : Handler η}
    (returns : program.ReturnsInPlace handler) {config : Config}
    (continues : config.continues = true) (infos : List Info) {machine : Machine η}
    (installed : machine.slot = handler) :
    inSequence (infos.map (program.violated config)) machine =
        (.returned (), infos.foldl program.handing machine) ∧
      (infos.foldl program.handing machine).slot = handler := by
  induction infos generalizing machine with
  | nil => exact ⟨rfl, installed⟩
  | cons info infos inductionHypothesis =>
      rcases violated_apply_of_returnsInPlace returns continues info installed with
        ⟨handled, stays⟩
      have continued := bind_apply_of_returned handled fun _ =>
        inSequence (infos.map (program.violated config))
      rcases inductionHypothesis stays with ⟨rest, kept⟩
      exact ⟨continued.trans rest, kept⟩

/-- A program whose one handler does nothing but write its calls down. -/
def listening : Program Unit :=
  ⟨.ofLevel .disabled, fun name info => note (.handled name info)⟩

theorem listening_returnsInPlace : listening.ReturnsInPlace (.named ()) := by
  intro info machine installed
  exact ⟨machine.logging (.handled () info), rfl, installed⟩

end Program

/-- The record that a handler wrote down when it was called. -/
def Entry.given? : Entry η → Option Info
  | .handled _ info => some info
  | _ => none

namespace Demand

open Assurance.Action

/-- The records that a handler is given in a run at a level which goes on after each of them, as a
listening handler has written them down. -/
def delivered (level : Level) (demands : List Demand) : List Info :=
  let start : Machine Unit := { Machine.initial ⟨none, none, false⟩ with slot := .named () }
  (runAll Program.listening ⟨level, true, false⟩ demands start).2.log.filterMap Entry.given?

theorem given_foldl_listening (infos : List Info) {machine : Machine Unit}
    (installed : machine.slot = .named ()) :
    (infos.foldl Program.listening.handing machine).log.filterMap Entry.given? =
      machine.log.filterMap Entry.given? ++ infos := by
  induction infos generalizing machine with
  | nil => exact (List.append_nil _).symm
  | cons info infos inductionHypothesis =>
      have handed : Program.listening.handing machine info =
          (machine.logging (.event .warning info)).logging (.handled () info) := by
        rw [Program.handing, installed]
        rfl
      have rest := @inductionHypothesis
        ((machine.logging (.event .warning info)).logging (.handled () info)) installed
      rw [List.foldl_cons, handed, rest]
      simp only [Machine.logging, List.filterMap_append, List.append_assoc]
      rfl

theorem delivered_eq_found (level : Level) (demands : List Demand) :
    delivered level demands = found level demands := by
  let start : Machine Unit := { Machine.initial ⟨none, none, false⟩ with slot := .named () }
  have ran : inSequence ((found level demands).map (Program.listening.violated ⟨level, true, false⟩))
      start = (.returned (), (found level demands).foldl Program.listening.handing start) :=
    (Program.inSequence_violated_apply Program.listening_returnsInPlace rfl _ rfl).1
  rw [delivered, runAll_eq, ran]
  exact given_foldl_listening (found level demands) rfl

/-- Raising the level only adds reports: what a handler is given at a lower level is, in the same
order and unaltered, among what it is given at a higher one.  A handler that returns in place is
given exactly those records, one call after the other, each behind its event, and nothing else
touches the machine.  At the lowest level a run is the run of no checks at all, whatever the
conditions are, and at every level it is the run without the checks of documented assumptions. -/
theorem reports_monotone (program : Program η) (config : Config) (demands : List Demand) :
    (∀ low high : Nat, low ≤ high →
      (delivered (.ofNumber low) demands).Sublist (delivered (.ofNumber high) demands)) ∧
    (∀ (handler : Handler η) (number : Nat) (machine : Machine η),
      program.ReturnsInPlace handler → config.continues = true → machine.slot = handler →
        let given := delivered (.ofNumber number) demands
        runAll program { config with level := .ofNumber number } demands machine =
          (.returned (), given.foldl program.handing machine)) ∧
    runAll program { config with level := .ofNumber 0 } demands =
      runAll program { config with level := .ofNumber 0 } [] ∧
    ∀ number : Nat,
      runAll program { config with level := .ofNumber number } demands =
        runAll program { config with level := .ofNumber number }
          (demands.filter (·.tier ≠ .assumed)) := by
  refine ⟨?_, ?_, ?_, ?_⟩
  · intro low high ordered
    have levels : (Level.ofNumber low).number ≤ (Level.ofNumber high).number := by
      rw [Level.number_ofNumber, Level.number_ofNumber]
      omega
    rw [delivered_eq_found, delivered_eq_found]
    exact found_sublist levels demands
  · intro handler number machine returns continues installed given
    have listened : given = found (.ofNumber number) demands := delivered_eq_found _ demands
    rw [runAll_eq, listened]
    exact (Program.inSequence_violated_apply returns (by exact continues) _ installed).1
  · have silent : found (.ofNumber 0) demands = [] := found_disabled demands
    rw [runAll_eq, silent]
    rfl
  · intro number
    rw [runAll_eq, runAll_eq, found_filter_assumed]

/-- An expensive check, a cheap one and a documented assumption, all failing, under a handler that
reports: the default level reports the second, the audit level the first two. -/
theorem reports_of_two_levels :
    let program : Program Unit := ⟨.ofLevel .audit, fun _ info => report info⟩
    let place : Location := ⟨"a.rs", "run", 1, 1⟩
    let costly : Demand := ⟨.audit, .assertion, false, place⟩
    let cheap : Demand := ⟨.default, .precondition, false, place⟩
    let assumption : Demand := ⟨.assumed, .postcondition, false, place⟩
    let demands := [costly, cheap, assumption]
    let machine : Machine Unit := { Machine.initial ⟨none, none, false⟩ with slot := .named () }
    (runAll program ⟨.ofNumber 1, true, false⟩ demands machine).2.log =
        [.event .warning cheap.info] ∧
      (runAll program ⟨.ofNumber 2, true, false⟩ demands machine).2.log =
        [.event .warning costly.info, .event .warning cheap.info] ∧
      (delivered (.ofNumber 1) demands).Sublist (delivered (.ofNumber 2) demands) := by
  intro program place costly cheap assumption demands machine
  have settled := reports_monotone program ⟨.audit, true, false⟩ demands
  have returns : program.ReturnsInPlace (.named ()) := by
    intro info reached installed
    exact ⟨reached.reporting info, rfl, installed⟩
  refine ⟨?_, ?_, settled.1 1 2 (by decide)⟩
  · exact congrArg (fun ran => ran.2.log) (settled.2.1 (.named ()) 1 machine returns rfl rfl)
  · exact congrArg (fun ran => ran.2.log) (settled.2.1 (.named ()) 2 machine returns rfl rfl)

end Demand

end Assurance
