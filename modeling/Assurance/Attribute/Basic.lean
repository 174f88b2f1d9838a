import Assurance.Source.Grammar
import Assurance.Violation.Info

namespace Assurance
namespace Attribute

/-!
# Contract attributes

An attribute attaches a condition to the function that it stands on.  The
language of conditions and functions is a parameter, of which only two readers
matter here.
-/

open Source

/-- The contract attributes. -/
inductive Kind where
  | expects | ensures
deriving DecidableEq, Repr

namespace Kind

def name : Kind → String
  | expects => "expects"
  | ensures => "ensures"

/-- The attribute for conditions of a family; assertions have none. -/
def ofFamily? : Family → Option Kind
  | .precondition => some expects
  | .postcondition => some ensures
  | .assertion => none

end Kind

/-- The language in which attributes stand. -/
structure HostLanguage where
  /-- Read an expression at the front of some tokens. -/
  expression? : List Token → Option Tape
  /-- The function item that some tokens are. -/
  functionItem? : List Token → Option Grammar.FunctionItem

def HostLanguage.standard : HostLanguage where
  expression? := Grammar.expression?
  functionItem? := Grammar.functionItem?

/-- Why an attribute cannot be expanded. -/
inductive Rejection where
  /-- A text does not consist of tokens. -/
  | unreadable
  /-- Tokens are not what the language asks for. -/
  | malformed
  /-- More than one condition was given. -/
  | severalConditions
  /-- The function that carries the attribute is asynchronous. -/
  | asyncFunction (kind : Kind)
deriving DecidableEq, Repr

/-- What is said about a rejection, if it is not left to the language. -/
def Rejection.message? : Rejection → Option String
  | unreadable => none
  | malformed => none
  | severalConditions =>
      some "expected a single condition, optionally preceded by `audit` or `axiom`"
  | asyncFunction kind => some ("#[" ++ kind.name ++ "] is not supported on async functions")

end Attribute
end Assurance
