import Assurance.Contract.Example.Functions
import Assurance.Contract.Example.Handlers

namespace Assurance
namespace Script

/-!
# Scripts

A script is a list of steps on one machine.  A step that raises does not end the
script; a step that aborts does.  Steps can be nested: inside a scope with a
handler of its own, and inside a block that takes the first violation.
-/

/-- Where the code that carries out the steps stands. -/
structure Site where
  file : String
  line : Nat
  column : Nat
  /-- The path of the function that makes the checks. -/
  checking : String
  /-- The path of the module of the example functions. -/
  examples : String
deriving DecidableEq, Repr

namespace Site

/-- The place itself, with a given function. -/
def location (site : Site) (function : String) : Location :=
  ⟨site.file, function, site.line, site.column⟩

/-- The place with the function in which a marker item with a given path was declared. -/
def here (site : Site) (path : String) : Location :=
  site.location (Location.enclosingFunction path)

end Site

/-- How a check function of the build is called. -/
inductive Form where
  /-- As a function that looks up its caller, which has no name. -/
  | plain
  /-- With a location. -/
  | located (location : Location)
  /-- In the form that also captures the enclosing function. -/
  | capturing
  /-- In that form, inside two nested closures. -/
  | capturingInClosures
deriving DecidableEq, Repr

/-- The path of a marker item declared inside a function and a number of nested closures. -/
def markerPath (function : String) (closures : Nat) : String :=
  String.ofList (function.toList ++ (List.replicate closures Location.closureSegment).flatten ++
    Location.markerSegment)

/-- The location that a check called in some form records. -/
def Form.location (site : Site) : Form → Location
  | plain => site.location Location.unknownFunction
  | located location => location
  | capturing => site.here (markerPath site.checking 0)
  | capturingInClosures => site.here (markerPath site.checking 2)

/-- One step of a script. -/
inductive Step (η : Type) where
  /-- Evaluate a condition and check it under a given configuration. -/
  | check (config : Config) (tier : Tier) (family : Family) (holds : Bool) (location : Location)
  /-- Evaluate a condition and check it under the configuration of the build. -/
  | checkBuild (tier : Tier) (family : Family) (form : Form) (holds : Bool)
  /-- Call an example function. -/
  | call (call : Example.Call)
  | install (handler : Handler η)
  | reset
  | replace (handler : Handler η)
  | previous (index : Nat)
  | drop (index : Nat)
  /-- Call the standard handler directly. -/
  | standardHandler (info : Info)
  | report (info : Info)
  | fatal (config : Config) (info : Info)
  | colourMode
  /-- Run steps with a handler installed. -/
  | scope (handler : Handler η) (steps : List (Step η))
  /-- Run steps and take the first violation. -/
  | catching (steps : List (Step η))
  /-- A step that cannot be carried out; its condition may have been evaluated before. -/
  | malformed (evaluated : Option Bool)

/-- What a step returns. -/
inductive Value (η : Type) where
  | nothing
  | number (number : Option Nat)
  | handler (handler : Option (Handler η))
  | colourMode (mode : ColourMode)
  | results (results : List (Value η))
  /-- What was taken, and the results of the steps that were finished. -/
  | caught (info : Option Info) (results : List (Value η))

/-- Evaluate a condition. -/
def evaluate {η : Type} (holds : Bool) : Action (Machine η) Unit :=
  Action.note (.evaluated holds)

/-- The results of the steps that return, and the payload of the first that does not. -/
structure Finished (η : Type) where
  results : List (Value η)
  raised : Option Payload

variable {η : Type}

/-- Run an action for its effects only. -/
def silently (action : Action (Machine η) Unit) : Action (Machine η) (Value η) := do
  action
  pure .nothing

mutual

/-- Run one step. -/
def Step.run (program : Program η) (site : Site) : Step η → Action (Machine η) (Value η)
  | .check config tier family holds location => silently do
      evaluate holds
      program.check config tier family holds location
  | .checkBuild tier family form holds => silently do
      evaluate holds
      program.checkBuild tier family holds (form.location site)
  | .call call => do
      let number ← call.run program (site.location (site.examples ++ "::" ++ call.function))
      pure (.number number)
  | .install handler => silently (Action.install handler)
  | .reset => silently Action.reset
  | .replace handler => silently (Action.replace handler)
  | .previous index => do
      let kept ← Action.previous index
      pure (.handler kept)
  | .drop index => silently (Action.drop index)
  | .standardHandler info => silently (Action.standardHandler program.build info)
  | .report info => silently (Action.report info)
  | .fatal config info => silently (Action.fatal config info)
  | .colourMode => do
      let mode ← Action.colourMode
      pure (.colourMode mode)
  | .scope handler steps => Action.withHandler handler do
      let finished ← runUntilRaised program site steps
      match finished.raised with
      | none => pure (.results finished.results)
      | some payload => Action.raise payload
  | .catching steps => Action.withHandler .raising do
      let finished ← runUntilRaised program site steps
      let info ← Action.takeInfo finished.raised
      pure (.caught info finished.results)
  | .malformed evaluated => do
      match evaluated with
      | some holds => evaluate holds
      | none => pure ()
      Action.raise .malformed

/-- Run steps until one raises. -/
def runUntilRaised (program : Program η) (site : Site) :
    List (Step η) → Action (Machine η) (Finished η)
  | [] => pure ⟨[], none⟩
  | step :: steps => do
      match ← Action.attempt (step.run program site) with
      | .error payload => pure ⟨[], some payload⟩
      | .ok result => do
          let finished ← runUntilRaised program site steps
          pure { finished with results := result :: finished.results }

end

/-- How a step of a script ended: with a value or a payload. -/
structure Report (η : Type) where
  result : Except Payload (Value η)
  /-- What the step added to the log. -/
  log : List (Entry η)
  /-- The handler installed after the step. -/
  handler : Handler η

/-- How a script ended. -/
structure Run (η : Type) where
  /-- The steps that came to an end. -/
  finished : List (Report η)
  /-- The log of the step that aborted, if one did. -/
  aborted : Option (List (Entry η))
  /-- The diagnostic lines that were written. -/
  lines : List String

def run (program : Program η) (site : Site) : List (Step η) → Machine η → Run η
  | [], machine => ⟨[], none, machine.lines⟩
  | step :: steps, machine =>
      match step.run program site { machine with log := [] } with
      | (.aborted, after) => ⟨[], some after.log, after.lines⟩
      | (.returned value, after) =>
          let rest := run program site steps after
          { rest with finished := ⟨.ok value, after.log, after.slot⟩ :: rest.finished }
      | (.raised payload, after) =>
          let rest := run program site steps after
          { rest with finished := ⟨.error payload, after.log, after.slot⟩ :: rest.finished }

end Script
end Assurance
