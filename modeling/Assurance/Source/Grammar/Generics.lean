import Assurance.Source.Grammar.Path

namespace Assurance
namespace Source
namespace Grammar

/-!
# Bounds and generic parameters

Generic parameters are written with the lifetimes first.  A parameter list
without parameters, a list of conditions without conditions, and a colon without
bounds leave nothing behind.
-/

open Reader Tokens

variable (read : Readers)

def boundLifetimes : Reader Unit := do
  word "for"
  operator "<"
  separated (operatorNext ">") (do outerAttributes read; lifetime) ","
  operator ">"

/-- The lifetimes of a bound, if it has any; tells whether it does. -/
def boundLifetimes? : Reader Bool := do
  if ← sees (wordNext "for") then
    boundLifetimes read
    return true
  return false

/-- The mark of a bound that is constant, always or on a condition; tells whether there is one. -/
def constantMark (constants : Bool) : Reader Bool := do
  if ← sees fun tokens => groupNext .bracket tokens || wordNext "const" tokens then
    if !constants then failure
    if ← sees (groupNext .bracket) then group .bracket (word "const") else word "const"
    return true
  return false

/-- A path without the empty angle brackets at its end. -/
def withoutEmptyBrackets (path : List Token) : List Token :=
  match path.reverse with
  | .punct '>' _ :: .punct '<' _ :: .punct ':' _ :: .punct ':' _ :: front => front.reverse
  | .punct '>' _ :: .punct '<' _ :: front => front.reverse
  | _ => path

/-- A bound by a capability; tells whether it is constant.  Arguments in parentheses take the place
of empty angle brackets. -/
def capabilityBound (constants : Bool) : Reader Bool := do
  let quantified ← boundLifetimes? read
  let constant ← constantMark constants
  let relaxed ← operator? "?"
  if relaxed && (quantified || (← sees (wordNext "for"))) then failure
  let (shape, written) ← aside (path read false)
  if shape.last != .present && (← sees parenthesisedNext) then
    write (if shape.last = .empty then withoutEmptyBrackets written else written)
    dropOperator "::"
    parenthesisedArguments read
  else write written
  return constant

/-- The arguments that an opaque type captures. -/
def capturedArguments : Reader Unit := do
  word "use"
  discard <| angled do
    if ← sees lifetimeNext then
      lifetime
      return true
    if ← sees (wordNext "Self") then word "Self" else name
    return false

/-- One bound.  A constant one is written exactly as it stands. -/
def bound (captures constants : Bool) : Reader BoundShape := do
  if ← sees lifetimeNext then
    lifetime
    return .lifetime
  if ← sees (wordNext "use") then
    if !captures then failure
    capturedArguments
    return .captured
  standing do
    if ← sees (groupNext .parenthesis) then
      return (.capability, ← group .parenthesis (capabilityBound read constants))
    return (.capability, ← capabilityBound read constants)

/-- Whether a bound may follow a plus. -/
def boundNext (constants : Bool) (tokens : List Token) : Bool :=
  anyWordNext tokens || operatorNext "::" tokens || operatorNext "?" tokens ||
    lifetimeNext tokens || groupNext .parenthesis tokens ||
    (constants && groupNext .bracket tokens)

/-- At least one bound; more than one only where sums are allowed.  Tells whether one of them is a
capability. -/
def bounds (sums captures constants : Bool) : Reader Bool :=
  repeatingFrom false fun found => do
    let shape ← read (.bound captures constants)
    let found := found || shape = .capability
    if sums && (← sees (operatorNext "+")) then
      operator "+"
      return (found, ← sees (boundNext constants))
    return (found, false)

/-- The bounds behind a colon, up to where they stop; without any the colon is dropped. -/
def colonBounds (stops : List Token → Bool) : Reader Unit := do
  if ← sees (operatorNext ":") then
    dropOperator ":"
    let (_, written) ← aside (joined stops (discard (read (.bound false true))) "+")
    if !written.isEmpty then write (Token.operator ":" ++ written)

/-- One generic parameter; tells whether it is a lifetime. -/
def parameter : Reader Bool := do
  outerAttributes read
  if ← sees lifetimeNext then
    lifetime
    if ← sees (operatorNext ":") then
      dropOperator ":"
      let (_, written) ← aside <| joined
        (fun tokens => tokens.isEmpty || operatorNext "," tokens || operatorNext ">" tokens)
        lifetime "+"
      if !written.isEmpty then write (Token.operator ":" ++ written)
    return true
  if ← sees (wordNext "const") then
    word "const"
    name
    operator ":"
    discard (read (.type true))
    if ← operator? "=" then
      if ← sees nameNext then name else constantArgument read
    return false
  if ← sees (wordNext "_") then
    word "_"
    return false
  name
  colonBounds read fun tokens => tokens.isEmpty || operatorNext "," tokens ||
    operatorNext ">" tokens || operatorNext "=" tokens
  if ← operator? "=" then discard (read (.type true))
  return false

/-- Whether generic parameters come next, and no path that is qualified by a type. -/
def parametersNext (tokens : List Token) : Bool :=
  let second := skip tokens
  let third := skip second
  operatorNext "<" tokens &&
    (operatorNext ">" second || operatorNext "#" second || wordNext "const" second ||
      ((lifetimeNext second || nameNext second) &&
        (operatorNext ">" third || operatorNext "," third || operatorNext "=" third ||
          (operatorNext ":" third && !operatorNext "::" third))))

/-- Generic parameters, if there are any. -/
def generics : Reader Unit := do
  if ← sees (operatorNext "<") then
    let (found, written) ← aside (angled (parameter read))
    if found then write written

/-- Whether the bounds of a condition stop. -/
def conditionStops (tokens : List Token) : Bool :=
  tokens.isEmpty || groupNext .brace tokens || operatorNext "," tokens ||
    operatorNext ";" tokens || (operatorNext ":" tokens && !operatorNext "::" tokens) ||
    operatorNext "=" tokens

/-- One condition on generic parameters. -/
def condition : Reader Unit := do
  if ← sees fun tokens => lifetimeNext tokens && operatorNext ":" (skip tokens) then
    lifetime
    operator ":"
    joined conditionStops lifetime "+"
  else
    discard (boundLifetimes? read)
    discard (read (.type true))
    operator ":"
    joined conditionStops (discard (read (.bound false true))) "+"

/-- Conditions on generic parameters, if there are any. -/
def conditions : Reader Unit := do
  if ← sees (wordNext "where") then
    let (_, keyword) ← aside (word "where")
    let (_, written) ← aside (joined conditionStops (condition read) ",")
    if !written.isEmpty then write (keyword ++ written)

end Grammar
end Source
end Assurance
