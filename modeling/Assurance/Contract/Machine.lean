import Assurance.Contract.Action
import Assurance.Violation.Colour

namespace Assurance

/-!
# Machines

What a program with contracts acts on: the slot that holds the installed
handler, the guards that remember earlier handlers, the log, the diagnostic
lines, and the colour mode once it has been detected.

A handler is one of two standard ones or a named handler of the program.  The
names are a parameter, and what a named handler does is given to the rules that
need it, so any procedure can be a handler without being stored in the state it
acts on.
-/

/-- What can be installed as the handler. -/
inductive Handler (η : Type) where
  /-- Report, and end the program unless its build continues. -/
  | standard
  /-- Raise the record of the violation. -/
  | raising
  /-- A handler of the program, by name. -/
  | named (name : η)
deriving DecidableEq, Repr

/-- How serious a logged event is. -/
inductive Severity where
  | warning | error
deriving DecidableEq, Repr

/-- What the log holds. -/
inductive Entry (η : Type) where
  /-- A condition was evaluated. -/
  | evaluated (holds : Bool)
  /-- A violation was found. -/
  | event (severity : Severity) (info : Info)
  /-- A handler of the program ran. -/
  | handled (name : η) (info : Info)
  /-- A counter was read. -/
  | counted (value : Nat)
deriving DecidableEq, Repr

/-- The state that programs act on. -/
structure Machine (η : Type) where
  /-- The installed handler. -/
  slot : Handler η
  /-- The guards in order of their creation; a dropped one holds nothing. -/
  guards : List (Option (Handler η))
  log : List (Entry η)
  /-- The diagnostic lines written so far. -/
  lines : List String
  /-- What the colour mode is detected from. -/
  sources : ColourSources
  /-- The colour mode, once detected. -/
  detected : Option ColourMode
deriving DecidableEq, Repr

namespace Machine

variable {η : Type}

/-- The state in which every program starts. -/
def initial (sources : ColourSources) : Machine η where
  slot := .standard
  guards := []
  log := []
  lines := []
  sources := sources
  detected := none

/-- The colour mode that diagnostics are written in. -/
def colourMode (machine : Machine η) : ColourMode :=
  machine.detected.getD machine.sources.detect

end Machine

namespace Action

variable {η α : Type}

def note (entry : Entry η) : Action (Machine η) Unit :=
  update fun machine => { machine with log := machine.log ++ [entry] }

/-- The colour mode, detected by the first action that asks for it. -/
def colourMode : Action (Machine η) ColourMode := fun machine =>
  (.returned machine.colourMode, { machine with detected := some machine.colourMode })

def writeLine (line : String) : Action (Machine η) Unit :=
  update fun machine => { machine with lines := machine.lines ++ [line] }

def installed : Action (Machine η) (Handler η) := read Machine.slot

/-- Install a handler; the one installed before is forgotten. -/
def install (handler : Handler η) : Action (Machine η) Unit :=
  update fun machine => { machine with slot := handler }

def reset : Action (Machine η) Unit := install .standard

/-- Run an action with a handler installed, and put back the earlier one afterwards. -/
def withHandler (handler : Handler η) (action : Action (Machine η) α) : Action (Machine η) α := do
  let earlier ← installed
  install handler
  action.cleaningUp fun machine => { machine with slot := earlier }

/-- Install a handler and keep the earlier one in a new guard. -/
def replace (handler : Handler η) : Action (Machine η) Unit :=
  update fun machine =>
    { machine with slot := handler, guards := machine.guards ++ [some machine.slot] }

/-- The handler that a guard keeps; nothing once the guard has been dropped. -/
def previous (index : Nat) : Action (Machine η) (Option (Handler η)) := do
  match (← read Machine.guards)[index]? with
  | none => raise .malformed
  | some kept => pure kept

/-- Drop a guard: put back the handler it keeps.  Dropping it again changes nothing. -/
def drop (index : Nat) : Action (Machine η) Unit := do
  match ← previous index with
  | none => pure ()
  | some kept =>
      update fun machine =>
        { machine with slot := kept, guards := machine.guards.set index none }

end Action

end Assurance
