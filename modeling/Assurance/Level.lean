namespace Assurance

/-!
# Levels and tiers

A build runs at one of three levels.  Each check belongs to a tier; the default
tier is live from the default level on, the audit tier at the audit level only,
and documented assumptions are never evaluated.
-/

/-- How many checks a build evaluates. -/
inductive Level where
  | disabled | default | audit
deriving DecidableEq, Repr

namespace Level

def all : List Level := [disabled, default, audit]

def number : Level → Nat
  | disabled => 0
  | default => 1
  | audit => 2

/-- The level of a number; numbers beyond the last level mean the last one. -/
def ofNumber : Nat → Level
  | 0 => disabled
  | 1 => default
  | _ => audit

@[simp] theorem ofNumber_number (level : Level) : ofNumber level.number = level := by
  cases level <;> rfl

/-- A level and its number as text. -/
def text : Level → String
  | disabled => "disabled (0)"
  | default => "default (1)"
  | audit => "audit (2)"

/-- Whether a level includes what another one includes. -/
def atLeast (level other : Level) : Bool :=
  decide (other.number ≤ level.number)

def checksDefault (level : Level) : Bool := level.atLeast default

def checksAudit (level : Level) : Bool := level.atLeast audit

end Level

/-- The tier of a check. -/
inductive Tier where
  /-- Cheap checks. -/
  | default
  /-- Expensive checks. -/
  | audit
  /-- Assumptions that are written down and never evaluated. -/
  | assumed
deriving DecidableEq, Repr

namespace Tier

/-- Whether checks of a tier are evaluated at a level. -/
def isActive (tier : Tier) (level : Level) : Bool :=
  match tier with
  | default => level.checksDefault
  | audit => level.checksAudit
  | assumed => false

def name : Tier → String
  | default => "default"
  | audit => "audit"
  | assumed => "axiom"

def all : List Tier := [default, audit, assumed]

/-- The tier of a given name, if there is one. -/
def ofName? (text : String) : Option Tier :=
  all.find? fun tier => tier.name == text

end Tier

end Assurance
