import Assurance.Level
import Assurance.Violation.Location

namespace Assurance

/-!
# Violations

The record of a failed check: its tier, its family, where it stands, and whether
it was tagged because a handler returned although the program must not go on.
-/

/-- What kind of statement a check makes. -/
inductive Family where
  | precondition | postcondition | assertion
deriving DecidableEq, Repr

namespace Family

def name : Family → String
  | precondition => "precondition"
  | postcondition => "postcondition"
  | assertion => "assertion"

def all : List Family := [precondition, postcondition, assertion]

/-- The family of a given name, if there is one. -/
def ofName? (text : String) : Option Family :=
  all.find? fun family => family.name == text

end Family

/-- What is known about a failed check. -/
structure Info where
  tier : Tier
  family : Family
  location : Location
  /-- A handler returned although the program must not go on. -/
  unhandled : Bool
deriving DecidableEq, Repr

namespace Info

/-- The record of a check that just failed. -/
def fresh (tier : Tier) (family : Family) (location : Location) : Info :=
  ⟨tier, family, location, false⟩

/-- The same record, tagged as unhandled. -/
def tagged (info : Info) : Info :=
  { info with unhandled := true }

@[simp] theorem tagged_tagged (info : Info) : info.tagged.tagged = info.tagged := rfl

/-- The tier and family in words. -/
def comment (info : Info) : String :=
  info.tier.name ++ " " ++ info.family.name

/-- The comment, with the tag in front. -/
def text (info : Info) : String :=
  (if info.unhandled then "[unhandled] " else "") ++ info.comment

end Info

end Assurance
