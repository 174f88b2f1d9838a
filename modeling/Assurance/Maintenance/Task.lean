import Assurance.Level
import Assurance.Text.Quoted

namespace Assurance
namespace Maintenance

/-!
# Maintenance tasks

A task is a fixed list of steps: lines to print, the check for invariant
markers, and commands of the package tool to run.  A command says how its own
process sees the level: as it is set outside, not at all, or as a given one.
-/

/-- The tasks. -/
inductive Task where
  | verify | test | levels | check | bench | proofs
deriving DecidableEq, Repr

namespace Task

def all : List Task := [verify, test, levels, check, bench, proofs]

def name : Task → String
  | verify => "verify"
  | test => "test"
  | levels => "levels"
  | check => "check"
  | bench => "bench"
  | proofs => "kani"

/-- The task of a given name, if there is one. -/
def ofName? (text : String) : Option Task :=
  all.find? fun task => task.name == text

end Task

/-- How the process of a command sees the level. -/
inductive LevelSetting where
  /-- As it is set outside. -/
  | inherited
  /-- Not set. -/
  | unset
  /-- Set to a level. -/
  | fixed (level : Level)
deriving DecidableEq, Repr

/-- The value that the process of a command sees. -/
def LevelSetting.seen (outside : Option String) : LevelSetting → Option String
  | inherited => outside
  | unset => none
  | fixed level => some (Nat.repr level.number)

/-- A command of the package tool. -/
structure Command where
  arguments : List String
  /-- Where it runs, below the project's directory. -/
  below : List String
  level : LevelSetting
  /-- What is reported if it cannot be started. -/
  startFailure : String
  /-- What is reported if it fails. -/
  exitFailure : String
  /-- What is reported around either, if anything is. -/
  context : Option String
deriving DecidableEq, Repr

def quotedList (texts : List String) : String :=
  "[" ++ ", ".intercalate (texts.map fun text => String.ofList (Text.quote text.toList)) ++ "]"

/-- A command in the project's directory. -/
def Command.inProject (arguments : List String) (level : LevelSetting) (context : Option String) :
    Command where
  arguments := arguments
  below := []
  level := level
  startFailure := "Failed to run cargo " ++ quotedList arguments
  exitFailure := "cargo " ++ quotedList arguments ++ " failed"
  context := context

def Command.proofs : Command where
  arguments := ["kani"]
  below := ["kani-proofs"]
  level := .inherited
  startFailure := "Failed to run cargo kani (is cargo-kani installed?)"
  exitFailure := "Kani proofs failed"
  context := none

/-- One step of a task. -/
inductive Step where
  | say (line : String)
  | countMarkers
  | command (command : Command)
deriving DecidableEq, Repr

/-- A mode in which the tests must pass. -/
structure TestMode where
  name : String
  level : LevelSetting
  features : List String
deriving DecidableEq, Repr

namespace TestMode

/-- Every mode, in the order in which the tests run. -/
def all : List TestMode :=
  [⟨"level 0 (checks off)", .fixed .disabled, []⟩,
   ⟨"level 1 (default features)", .unset, []⟩,
   ⟨"level 2 (audit)", .unset, ["audit"]⟩,
   ⟨"level 1, continue-on-violation", .unset, ["continue-on-violation"]⟩,
   ⟨"level 2, autosar-compliant", .fixed .audit, ["autosar-compliant"]⟩]

/-- The command that runs the tests in a mode. -/
def command (mode : TestMode) : Command :=
  let chosen := if mode.features.isEmpty then [] else
    ["--features", ",".intercalate mode.features]
  Command.inProject (["test", "--quiet"] ++ chosen) mode.level
    (some ("test suite failed at " ++ mode.name))

/-- The steps for one mode, which is the one with a given number. -/
def steps (number : Nat) (mode : TestMode) : List Step :=
  [.say ("  [" ++ Nat.repr number ++ "/" ++ Nat.repr all.length ++ "] " ++ mode.name),
   .command mode.command]

end TestMode

namespace Task

/-- The steps that run the tests in every mode. -/
def levelSteps : List Step :=
  (TestMode.all.mapIdx fun index mode => mode.steps (index + 1)).flatten

/-- A command whose process sees no level. -/
def plain (arguments : List String) : Step :=
  .command (Command.inProject arguments .unset none)

/-- The arguments that make every lint an error. -/
def lintArguments : List String := ["clippy", "--workspace", "--quiet", "--", "-D", "warnings"]

/-- A line across the page. -/
def rule : String := "=========================================="

def steps : Task → List Step
  | verify =>
      [.say rule, .say "guardrail Verification Suite", .say (rule ++ "\n"),
       .say "[1/3] Checking invariant markers...", .countMarkers,
       .say "✓ Invariant markers present\n",
       .say "[2/3] Running tests at every build level..."] ++ levelSteps ++
      [.say "✓ All build levels passed\n",
       .say "[3/3] Running clippy...", plain lintArguments, .say "✓ Clippy passed\n",
       .say rule, .say "✓ ALL VERIFICATION CHECKS PASSED", .say rule]
  | test => [plain ["test", "--workspace"]]
  | levels => levelSteps
  | check =>
      [.say "Running quick checks...\n",
       .say "[1/3] cargo check...", plain ["check", "--workspace"],
       .say "[2/3] cargo test...", plain ["test", "--quiet"],
       .say "[3/3] cargo clippy...", plain lintArguments,
       .say "\n✓ Quick checks passed"]
  | bench => [plain ["bench"]]
  | proofs => [.command Command.proofs]

end Task

/-- What is printed if no task is named. -/
def help : String :=
  "\ncargo xtask <COMMAND>\n\n" ++
  "Commands:\n" ++
  "  verify    Run full verification suite (markers + levels + clippy)\n" ++
  "  test      Run all Rust tests\n" ++
  "  levels    Run tests at build levels 0, 1, 2 and in continue/compliant modes\n" ++
  "  check     Quick check (cargo check + test + clippy)\n" ++
  "  bench     Run benchmarks\n" ++
  "  kani      Run Kani proofs in kani-proofs/\n"

end Maintenance
end Assurance
