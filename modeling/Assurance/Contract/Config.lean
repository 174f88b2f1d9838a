import Assurance.Level

namespace Assurance

/-!
# Configurations

A configuration says which checks are evaluated, whether the program goes on
after a failed one, and whether it is ended by raising a value that can be
caught or by aborting.
-/

/-- What a build does with its checks. -/
structure Config where
  level : Level
  /-- Go on after a failed check. -/
  continues : Bool
  /-- Raise a catchable value instead of aborting. -/
  compliant : Bool
deriving DecidableEq, Repr

namespace Config

/-- The configuration of a level with neither switch set. -/
def ofLevel (level : Level) : Config := ⟨level, false, false⟩

/-- One change to a configuration. -/
inductive Change where
  | level (level : Level)
  | continues (continues : Bool)
  | compliant (compliant : Bool)

/-- The configuration after a change. -/
def change (config : Config) : Change → Config
  | .level level => { config with level }
  | .continues continues => { config with continues }
  | .compliant compliant => { config with compliant }

/-- The configurations passed through while changes are made, the first one included. -/
def history (config : Config) : List Change → List Config
  | [] => [config]
  | next :: changes => config :: (config.change next).history changes

end Config

end Assurance
