import Assurance.Contract.Config
import Assurance.Contract.Machine

namespace Assurance

/-!
# Checks

A check whose tier is live and whose condition fails logs one event and calls
the installed handler with the record of the violation.  If the handler returns
and the configuration does not go on, the record is tagged and the program is
ended, so no handler can turn a violation into nothing.

The standard handler goes by the configuration of the build, not by that of the
check.
-/

/-- The configuration that a program is built with, and what its own handlers do. -/
structure Program (η : Type) where
  build : Config
  handlers : η → Info → Action (Machine η) Unit

namespace Action

variable {η α : Type}

/-- Write the line of a violation. -/
def report (info : Info) : Action (Machine η) Unit := do
  let mode ← colourMode
  writeLine (Diagnostic.render mode info)

/-- End the program: raise the record with its plain line, or abort. -/
def terminate (config : Config) (info : Info) : Action (Machine η) α :=
  if config.compliant then
    raise (.violation (.ofInfo info (Diagnostic.render .plain info)))
  else abort

/-- Report a violation and end the program. -/
def fatal (config : Config) (info : Info) : Action (Machine η) α := do
  report info
  terminate config info

/-- What the standard handler does. -/
def standardHandler (build : Config) (info : Info) : Action (Machine η) Unit := do
  report info
  if build.continues then pure () else terminate build info

/-- What the raising handler does. -/
def raisingHandler (info : Info) : Action (Machine η) Unit := raise (.info info)

/-- The record that was raised, if one was.  Every other payload is raised again. -/
def takeInfo (raised : Option Payload) : Action (Machine η) (Option Info) :=
  match raised with
  | none => pure none
  | some (.info info) => pure (some info)
  | some payload => raise payload

/-- The record that ended an action run under the raising handler, if one did. -/
def catching (action : Action (Machine η) Unit) : Action (Machine η) (Option Info) :=
  withHandler .raising do
    match ← attempt action with
    | .ok () => takeInfo none
    | .error payload => takeInfo (some payload)

end Action

/-- The severity of a violation: an error exactly if the configuration ends the program. -/
def Config.severity (config : Config) : Severity :=
  if config.continues then .warning else .error

namespace Program

variable {η : Type}

/-- What a handler does. -/
def handle (program : Program η) (handler : Handler η) (info : Info) : Action (Machine η) Unit :=
  match handler with
  | .standard => Action.standardHandler program.build info
  | .raising => Action.raisingHandler info
  | .named name => program.handlers name info

/-- Call the installed handler. -/
def dispatch (program : Program η) (info : Info) : Action (Machine η) Unit := do
  let handler ← Action.installed
  program.handle handler info

/-- What happens once a violation is found. -/
def violated (program : Program η) (config : Config) (info : Info) : Action (Machine η) Unit := do
  Action.note (.event config.severity info)
  program.dispatch info
  if config.continues then pure () else Action.fatal config info.tagged

/-- Run one check whose condition has been evaluated. -/
def check (program : Program η) (config : Config) (tier : Tier) (family : Family) (holds : Bool)
    (location : Location) : Action (Machine η) Unit :=
  if tier.isActive config.level && !holds then
    program.violated config (.fresh tier family location)
  else pure ()

/-- Run one check under the configuration of the build. -/
def checkBuild (program : Program η) (tier : Tier) (family : Family) (holds : Bool)
    (location : Location) : Action (Machine η) Unit :=
  program.check program.build tier family holds location

end Program

end Assurance
