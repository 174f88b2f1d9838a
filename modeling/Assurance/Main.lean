import Assurance.Level.Resolution
import Assurance.Maintenance.Plan

namespace Assurance

/-!
# Command line

`level` resolves the level of a build from the environment and prints what the
build has to know about it.  The name of a maintenance task prints the plan of
the task; anything else says which tasks there are.
-/

namespace CommandLine

/-- The bytes of a variable, if it is set. -/
def bytesOf (name : String) : IO (Option ByteString) := do
  return (← IO.getEnv name).map ByteString.ofText

/-- Resolve the level of a build. -/
def level : IO UInt32 := do
  let environment : Level.Environment :=
    { choice := ← bytesOf Level.choiceVariable
      audit := ← bytesOf Level.auditVariable
      contracts := ← bytesOf Level.contractsVariable }
  match Level.resolve environment with
  | .ok level =>
      for line in level.directives do
        IO.println line
      return 0
  | .error bad =>
      IO.eprintln bad.message
      return 101

/-- Print the plan of a task, or which tasks there are. -/
def plan (task : Option Maintenance.Task) : IO UInt32 := do
  match task with
  | some task =>
      for line in task.plan do
        IO.println line
  | none => IO.eprintln Maintenance.help
  return 0

end CommandLine

end Assurance

/-- The program. -/
def main (arguments : List String) : IO UInt32 :=
  match arguments with
  | ["level"] => Assurance.CommandLine.level
  | _ => Assurance.CommandLine.plan (arguments.head?.bind Assurance.Maintenance.Task.ofName?)
