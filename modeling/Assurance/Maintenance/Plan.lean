import Assurance.Level.Resolution
import Assurance.Maintenance.Task

namespace Assurance
namespace Maintenance

/-!
# Plans

The plan of a task is the list of its commands as lines for a shell, to be run
one after the other in the project's directory.
-/

/-- How a line for a shell sets the level of what it starts. -/
def LevelSetting.words : LevelSetting → List String
  | inherited => []
  | unset => ["env", "-u", Level.choiceVariable]
  | fixed level => ["env", Level.choiceVariable ++ "=" ++ Nat.repr level.number]

/-- The line for a shell that runs a command. -/
def Command.line (command : Command) : String :=
  let place := if command.below.isEmpty then [] else ["cd", "/".intercalate command.below, "&&"]
  " ".intercalate (place ++ command.level.words ++ ["cargo"] ++ command.arguments)

/-- The line for a shell that takes a step, if the step does more than print. -/
def Step.line? : Step → Option String
  | .say _ => none
  | .countMarkers => some "grep -r INVARIANT: --include=*.rs src"
  | .command started => some started.line

def Task.plan (task : Task) : List String :=
  task.steps.filterMap Step.line?

end Maintenance
end Assurance
