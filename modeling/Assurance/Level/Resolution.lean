import Assurance.Level
import Assurance.Text.Blank
import Assurance.Text.Quoted
import Assurance.Text.Utf8

namespace Assurance

/-!
# Resolution of the level

Before a build its level is resolved from the environment.  An explicit choice
that is text wins and must be the number of a level, blanks around it aside;
without one, the features that are switched on decide.  A variable whose value
is not text counts as not set.
-/

namespace Level

/-- The variables that a level is resolved from. -/
structure Environment where
  /-- The explicit choice. -/
  choice : Option ByteString
  /-- The feature for audit checks. -/
  audit : Option ByteString
  /-- The feature for contracts. -/
  contracts : Option ByteString
deriving DecidableEq, Repr

/-- The text of a variable, if it is set to one. -/
def textOf? (value : Option ByteString) : Option String := value.bind ByteString.decode?

/-- The level that the features ask for. -/
def ofFeatures (environment : Environment) : Level :=
  if (textOf? environment.audit).isSome then audit
  else if (textOf? environment.contracts).isSome then default
  else disabled

/-- A choice, without blanks at its ends, that is not the number of a level. -/
structure BadChoice where
  trimmed : List Char
deriving DecidableEq, Repr

/-- The level of a choice, whose ends are free of blanks. -/
def ofChoice (trimmed : List Char) : Except BadChoice Level :=
  match trimmed with
  | ['0'] => .ok disabled
  | ['1'] => .ok default
  | ['2'] => .ok audit
  | _ => .error ⟨trimmed⟩

/-- The level that an environment asks for. -/
def resolve (environment : Environment) : Except BadChoice Level :=
  match textOf? environment.choice with
  | some text => ofChoice (Text.trim text.toList)
  | none => .ok (ofFeatures environment)

/-- The variable that holds the choice. -/
def choiceVariable : String := "GUARDRAIL_BUILD_LEVEL"

/-- The variable that is set while the audit feature is on. -/
def auditVariable : String := "CARGO_FEATURE_AUDIT"

/-- The variable that is set while the contracts feature is on. -/
def contractsVariable : String := "CARGO_FEATURE_CONTRACTS"

def BadChoice.message (bad : BadChoice) : String :=
  choiceVariable ++ " must be 0 (disabled), 1 (default) or 2 (audit), got " ++
    String.ofList (Text.quote bad.trimmed)

/-- The lines that tell the build which level it has and on what that depends. -/
def directives (level : Level) : List String :=
  ["cargo:rerun-if-env-changed=" ++ choiceVariable,
   "cargo:rerun-if-changed=build.rs",
   "cargo:rustc-env=GUARDRAIL_EFFECTIVE_BUILD_LEVEL=" ++ Nat.repr level.number]

end Level

end Assurance
