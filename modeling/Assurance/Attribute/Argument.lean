import Assurance.Attribute.Basic

namespace Assurance
namespace Attribute

/-!
# Arguments of contract attributes

An argument is one condition.  The name of a tier may stand before it, with a
comma behind the name; without the comma the name is part of the condition.  One
comma may follow the condition.
-/

open Source

/-- The argument of an attribute: a tier, and a condition in standard form. -/
structure Argument where
  tier : Tier
  condition : List Token
deriving DecidableEq

namespace Argument

/-- The tier that a name before the condition selects. -/
def tierOfName? (name : String) : Option Tier :=
  [Tier.audit, Tier.assumed].find? fun tier => tier.name == name

/-- The tier that an argument begins with, and the tokens behind it. -/
def splitTier (tokens : List Token) : Tier × List Token :=
  match Tokens.visible tokens with
  | .ident false name :: more =>
      match Tokens.visible more, tierOfName? name with
      | .punct ',' _ :: rest, some tier => (tier, rest)
      | _, _ => (.default, tokens)
  | _ => (.default, tokens)

/-- The tokens behind one comma, if they begin with one. -/
def dropComma (tokens : List Token) : List Token :=
  match Tokens.visible tokens with
  | .punct ',' _ :: rest => rest
  | _ => tokens

def read (host : HostLanguage) (tokens : List Token) : Except Rejection Argument :=
  let (tier, tokens) := splitTier tokens
  match host.expression? tokens with
  | none => .error .malformed
  | some tape =>
      if !(dropComma tape.rest).isEmpty then .error .severalConditions
      else if tape.leftOver then .error .malformed
      else .ok ⟨tier, tape.written⟩

end Argument

end Attribute
end Assurance
