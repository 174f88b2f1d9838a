import Assurance.Source.Grammar.Generics

namespace Assurance
namespace Source
namespace Grammar

/-!
# Types
-/

open Reader Tokens

variable (read : Readers)

/-- The name of a calling convention, if there is one. -/
def convention : Reader Unit := do
  if ← word? "extern" then
    if ← sees textNext then discard takeToken

def moreBounds : Reader Unit :=
  repeating do
    if ← operator? "+" then
      discard (read (.bound false false))
      return true
    return false

/-- What stands in the parentheses of a type. -/
inductive Parenthesised where
  | tuple
  /-- One type of some shape. -/
  | one (shape : TypeShape)
  /-- A bound that is relaxed. -/
  | relaxed

def insideParentheses : Reader Parenthesised := do
  if ← atEnd then return .tuple
  if ← sees lifetimeNext then
    if ← bounds read true false false then return .one .plain else failure
  if ← sees (operatorNext "?") then
    discard (read (.bound false false))
    return .relaxed
  let shape ← read (.type true)
  if ← operator? "," then
    commaList (discard (read (.type true)))
    return .tuple
  return .one shape

/-- A type in parentheses, a tuple, or a sum whose first bound stands in parentheses. -/
def parenthesisedType (sums : Bool) : Reader TypeShape := do
  match ← group .parenthesis (insideParentheses read) with
  | .tuple => return .plain
  | .relaxed =>
      moreBounds read
      return .plain
  | .one shape =>
      let summable := (shape.isPath && shape != .groupedPath) || shape = .bound
      if summable && sums && (← sees (operatorNext "+")) then
        moreBounds read
        return .plain
      return .parenthesised

/-- Whether a parameter of a function type that stands for any number of them comes next. -/
def variadicNext (tokens : List Token) : Bool :=
  operatorNext "..." tokens ||
    ((nameNext tokens || wordNext "_" tokens) && operatorNext ":" (skip tokens) &&
      operatorNext "..." (skipTwo tokens))

/-- Whether a receiver that can be changed comes next. -/
def changeableReceiverNext (tokens : List Token) : Bool :=
  wordNext "mut" tokens && wordNext "self" (skip tokens)

/-- The name of a parameter of a function type, if it has one; tells whether it does. -/
def parameterName? (mayReceive : Bool) : Reader Bool := do
  if ← sees fun tokens =>
      (nameNext tokens || wordNext "_" tokens || (mayReceive && wordNext "self" tokens)) &&
        operatorNext ":" (skip tokens) && !operatorNext "::" (skip tokens) then
    anyWord
    operator ":"
    return true
  return false

/-- One parameter of a function type.  Only the first one may be a receiver; a receiver that can be
changed is written exactly as it stands. -/
def functionTypeParameter (first : Bool) : Reader Unit :=
  standing do
    let changeable := first && (← sees changeableReceiverNext)
    if changeable then word "mut"
    let receives ← sees (wordNext "self")
    let named ← parameterName? first
    if first && !(named && receives) && (← sees changeableReceiverNext) then
      word "mut"
      word "self"
      return ((), true)
    if changeable && !named then word "self" else discard (read (.type true))
    return ((), changeable)

def functionType : Reader Unit := do
  discard (word? "unsafe")
  convention
  word "fn"
  group .parenthesis do
    discard <| repeatingFrom true fun first => do
      if ← atEnd then return (first, false)
      outerAttributes read
      if ← sees variadicNext then
        discard (parameterName? false)
        operator "..."
        discard (operator? ",")
        return (false, false)
      functionTypeParameter read first
      if ← atEnd then return (false, false)
      operator ","
      return (false, true)
  resultType read false

/-- A path, a macro call, or a sum of bounds that begins with a path. -/
def pathType (sums quantified : Bool) : Reader TypeShape := do
  let (qualified, shape) ← qualifiedPath read false
  if qualified then return .path true shape
  if ← sees (macroCallNext qualified shape) then
    discard macroCall
    return .plain
  if sums && (← sees (operatorNext "+")) then
    operator "+"
    if ← sees (boundNext false) then discard (bounds read true false false)
    return .plain
  if quantified then return .bound
  return .path false shape

/-- Whether a path goes on behind a group with invisible delimiters. -/
def groupedPathNext (tokens : List Token) : Bool :=
  operatorNext "::" tokens && anyWordNext (skipTwo tokens)

/-- Whether arguments follow a group with invisible delimiters. -/
def groupedArgumentsNext (mayFollow : Bool) (tokens : List Token) : Bool :=
  (mayFollow && operatorNext "<" tokens) ||
    (operatorNext "::" tokens && operatorNext "<" (skipTwo tokens))

/-- A type in a group with invisible delimiters.  A path goes on behind the group, which it then
leaves; any other type qualifies the path behind it. -/
def groupedType (mayHaveArguments : Bool) : Reader TypeShape := do
  let (shape, written) ← aside (group .invisible (read (.type true)))
  let inner := match written with
    | [.group _ inner] => inner
    | _ => written
  if ← sees groupedPathNext then
    match shape with
    | .path qualified path =>
        write inner
        return .path qualified (← moreSegments read false path)
    | _ =>
        write (Token.operator "<" ++ inner ++ Token.operator ">")
        return .path true (← path read false)
  if ← sees (groupedArgumentsNext mayHaveArguments) then
    if let .path qualified path := shape then
      if path.last = .absent then
        write inner
        let last := if ← segmentArguments read then Arguments.present else .empty
        return .path qualified (← moreSegments read false { path with plain := false, last })
  write written
  return if shape.isPath then .groupedPath else .plain

def pathNext (tokens : List Token) : Bool :=
  nameNext tokens || oneOfWordsNext ["super", "self", "Self", "crate"] tokens ||
    operatorNext "::" tokens || operatorNext "<" tokens

def type (sums : Bool) : Reader TypeShape := do
  if ← sees (groupNext .invisible) then return ← groupedType read true
  let quantified ← boundLifetimes? read
  if ← sees (oneOfWordsNext ["fn", "unsafe", "extern"]) then
    functionType read
    return .plain
  if ← sees fun tokens => pathNext tokens &&
      !(quantified && (operatorNext "::" tokens || operatorNext "<" tokens)) then
    pathType read sums quantified
  else if quantified then failure
  else if ← sees (groupNext .parenthesis) then parenthesisedType read sums
  else if ← sees (wordNext "dyn") then
    standing do
      word "dyn"
      let starred ← operator? "*"
      if ← bounds read sums false false then return (.plain, starred) else failure
  else if ← sees (groupNext .bracket) then
    group .bracket do
      discard (read (.type true))
      if ← operator? ";" then discard (read (.expression true))
    return .plain
  else if ← operator? "*" then
    if !(← word? "const") then word "mut"
    discard (read (.type false))
    return .plain
  else if ← sees (operatorNext "&") then
    operator "&"
    if ← sees lifetimeNext then lifetime
    discard (word? "mut")
    discard (read (.type false))
    return .plain
  else if ← operator? "!" then return .plain
  else if ← word? "impl" then
    if ← bounds read sums true true then return .plain else failure
  else if ← word? "_" then return .plain
  else if ← sees lifetimeNext then
    if ← bounds read true false false then return .plain else failure
  else failure

end Grammar
end Source
end Assurance
