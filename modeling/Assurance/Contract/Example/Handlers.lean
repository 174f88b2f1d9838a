import Assurance.Contract.Check

namespace Assurance
namespace Example

/-!
# Example handlers

Handlers that log their calls, and beside that do what a handler may do: change
the slot, fail a check of their own, raise, report, or end the program.

Two of them fail a check.  Each first installs a handler that only logs, so the
check they fail finds a handler that fails none, and one level of nesting is
enough to say what every handler does.
-/

/-- The example handlers. -/
inductive HandlerName where
  /-- Log. -/
  | record
  /-- Log, as a second handler. -/
  | record2
  /-- Install `record`, then log. -/
  | reinstall
  /-- Install the standard handler, then log. -/
  | reset
  /-- Install `record`, log, and fail a check. -/
  | nested
  /-- Log, and fail a check while `record2` is installed. -/
  | guarded
  /-- Log, and raise something else. -/
  | foreign
  /-- Log, and end the program by raising. -/
  | fatally
  /-- Log, and report. -/
  | reporting
deriving DecidableEq, Repr

namespace HandlerName

def all : List HandlerName :=
  [record, record2, reinstall, reset, nested, guarded, foreign, fatally, reporting]

def name : HandlerName → String
  | record => "record"
  | record2 => "record2"
  | reinstall => "reinstall"
  | reset => "reset"
  | nested => "nested"
  | guarded => "guarded"
  | foreign => "foreign"
  | fatally => "fatally"
  | reporting => "reporting"

/-- The handler of a given name, if there is one. -/
def ofName? (text : String) : Option HandlerName :=
  all.find? fun handler => handler.name == text

end HandlerName

/-- The configuration under which `fatally` ends the program. -/
def endingConfig : Config := ⟨.disabled, false, true⟩

/-- The configuration of the checks that handlers fail. -/
def nestedConfig : Config := ⟨.audit, true, false⟩

/-- Where the checks that handlers fail stand. -/
def nestedLocation : Location := ⟨"nested.rs", "nested::run", 1, 1⟩

open HandlerName in
/-- What a handler does, given what it does to fail a check. -/
def act (failCheck : Action (Machine HandlerName) Unit) (name : HandlerName) (info : Info) :
    Action (Machine HandlerName) Unit :=
  let log := Action.note (.handled name info)
  match name with
  | record => log
  | record2 => log
  | reinstall => do
      Action.install (.named record)
      log
  | reset => do
      Action.reset
      log
  | nested => do
      Action.install (.named record)
      log
      failCheck
  | guarded => do
      log
      Action.withHandler (.named record2) failCheck
  | foreign => do
      log
      Action.raise (.foreign "not a violation")
  | fatally => do
      log
      Action.fatal endingConfig info
  | reporting => do
      log
      Action.report info

/-- The program whose handlers fail no checks. -/
def innerProgram (build : Config) : Program HandlerName :=
  ⟨build, act (pure ())⟩

/-- The program with the example handlers. -/
def program (build : Config) : Program HandlerName :=
  ⟨build, act ((innerProgram build).check nestedConfig .audit .assertion false nestedLocation)⟩

end Example
end Assurance
