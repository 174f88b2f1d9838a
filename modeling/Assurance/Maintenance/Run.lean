import Assurance.Maintenance.Markers
import Assurance.Maintenance.Task

namespace Assurance
namespace Maintenance

/-!
# Runs of maintenance tasks

A task runs its steps one after the other and stops at the first that fails.
The project's directory is the parent of the one in which the tasks are kept,
which is named by the environment or else is the current one.  That the current
one cannot be read, which is an error if the environment names none, is left out.
-/

/-- What a run depends on. -/
structure Surroundings where
  system : FileSystem
  /-- The current directory. -/
  current : Place
  /-- The directory of the tasks as the environment names it, if it does. -/
  manifest : Option String
  /-- The level that is set outside. -/
  level : Option String
  hasCargo : Bool
  hasGrep : Bool
  /-- Whether the command started as the one of some number, from zero on, succeeds. -/
  succeeds : Nat → Bool

namespace Surroundings

/-- The path of the project's directory. -/
def project (surroundings : Surroundings) : Path :=
  let tasks := match surroundings.manifest with
    | some text => Path.ofText text
    | none => ⟨true, surroundings.current⟩
  tasks.parent?.getD tasks

/-- The directory below the project's in which a tool is to be started. -/
def directory (surroundings : Surroundings) (available : Bool) (below : List String) :
    Except StartError Place := do
  let place ← surroundings.system.lookUp surroundings.current (surroundings.project.append below)
  if available then .ok place else .error .notFound

end Surroundings

/-- A command that was started. -/
structure Started where
  place : Place
  level : Option String
  arguments : List String
deriving DecidableEq, Repr

/-- An error and what caused it, the outermost first. -/
structure Failure where
  outermost : String
  causes : List String
deriving DecidableEq, Repr

namespace Failure

/-- The failure seen from further outside. -/
def within (failure : Failure) (context : Option String) : Failure :=
  match context with
  | none => failure
  | some text => ⟨text, failure.outermost :: failure.causes⟩

/-- The causes of an error as they are printed; several are numbered. -/
def causeLines : List String → List String
  | [] => []
  | [cause] => ["", "Caused by:", "    " ++ cause]
  | causes => ["", "Caused by:"] ++
      causes.mapIdx fun index cause => "    " ++ Nat.repr index ++ ": " ++ cause

/-- A failure as it is printed. -/
def text (failure : Failure) : String :=
  "\n".intercalate (("Error: " ++ failure.outermost) :: causeLines failure.causes) ++ "\n"

end Failure

/-- What a run has done so far. -/
structure Progress where
  lines : List String
  started : List Started
deriving DecidableEq, Repr

namespace Progress

def start : Progress := ⟨[], []⟩

/-- The printed text. -/
def text (progress : Progress) : String :=
  String.join (progress.lines.map fun line => line ++ "\n")

end Progress

def Command.run (surroundings : Surroundings) (command : Command) (progress : Progress) :
    Except Failure Unit × Progress :=
  match surroundings.directory surroundings.hasCargo command.below with
  | .error error =>
      (.error (Failure.within ⟨command.startFailure, [error.message]⟩ command.context), progress)
  | .ok place =>
      let after := { progress with
        started := progress.started ++
          [⟨place, command.level.seen surroundings.level, command.arguments⟩] }
      if surroundings.succeeds progress.started.length then (.ok (), after)
      else (.error (Failure.within ⟨command.exitFailure, []⟩ command.context), after)

/-- Count the invariant markers in the sources. -/
def checkMarkers (surroundings : Surroundings) : Except Failure Unit :=
  match surroundings.directory surroundings.hasGrep ["src"] with
  | .error error => .error ⟨"Failed to run grep", [error.message]⟩
  | .ok place =>
      let count := countMarkers surroundings.system place
      if count < requiredMarkers then
        .error ⟨"Expected at least " ++ Nat.repr requiredMarkers ++ " INVARIANT markers, found " ++
          Nat.repr count ++ ". Someone may have removed safety comments!", []⟩
      else .ok ()

/-- Run one step. -/
def Step.run (surroundings : Surroundings) (step : Step) (progress : Progress) :
    Except Failure Unit × Progress :=
  match step with
  | .say line => (.ok (), { progress with lines := progress.lines ++ [line] })
  | .countMarkers => (checkMarkers surroundings, progress)
  | .command started => started.run surroundings progress

def runSteps (surroundings : Surroundings) : List Step → Progress → Except Failure Unit × Progress
  | [], progress => (.ok (), progress)
  | step :: steps, progress =>
      match step.run surroundings progress with
      | (.error failure, after) => (.error failure, after)
      | (.ok (), after) => runSteps surroundings steps after

def Task.run (surroundings : Surroundings) (task : Task) : Except Failure Unit × Progress :=
  runSteps surroundings task.steps Progress.start

/-- How the program ends. -/
structure Ending where
  started : List Started
  output : String
  errors : String
  code : Nat
deriving DecidableEq, Repr

/-- Run the task that the first argument names; without one, say which there are. -/
def runNamed (surroundings : Surroundings) (arguments : List String) : Ending :=
  match arguments.head?.bind Task.ofName? with
  | none => ⟨[], "", help ++ "\n", 0⟩
  | some task =>
      match task.run surroundings with
      | (.ok (), progress) => ⟨progress.started, progress.text, "", 0⟩
      | (.error failure, progress) => ⟨progress.started, progress.text, failure.text, 1⟩

end Maintenance
end Assurance
