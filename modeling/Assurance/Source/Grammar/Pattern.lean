import Assurance.Source.Grammar.Type

namespace Assurance
namespace Source
namespace Grammar

/-!
# Patterns
-/

open Reader Tokens

variable (read : Readers)

/-- The points of a range; three of them are written as an inclusive range.  Tells whether the range
is inclusive. -/
def patternPoints : Reader Bool := do
  if ← sees (operatorNext "...") then
    dropOperator "..."
    write (Token.operator "..=")
    return true
  if ← operator? "..=" then return true
  operator ".."
  return false

/-- Whether a range ends without an upper bound. -/
def rangeStops (tokens : List Token) : Bool :=
  tokens.isEmpty || operatorNext "|" tokens || operatorNext "=" tokens ||
    (operatorNext ":" tokens && !operatorNext "::" tokens) || operatorNext "," tokens ||
    operatorNext ";" tokens || wordNext "if" tokens

/-- The bound of a range, if it has one; tells whether it does. -/
def rangeBound? : Reader Bool := do
  if ← sees rangeStops then return false
  if ← sees literalNext then literal
  else if ← sees pathNext then discard (qualifiedPath read true)
  else
    word "const"
    attributedBlock read
  return true

/-- The points of a range and what follows them. -/
def rangeEnd (started : Bool) : Reader PatternShape := do
  let inclusive ← patternPoints
  let ended ← rangeBound? read
  if inclusive && !ended then failure
  return if started && ended then .plain else .openRange

/-- Patterns with commas between them, down to the last token; tells the shape of the only one, if
there is just one without a comma. -/
def patternList (allowed : PatternShape → Bool) : Reader (Option PatternShape) := do
  let (_, only) ← repeatingFrom ((true, none) : Bool × Option PatternShape) fun (first, _) => do
    if ← atEnd then return ((false, none), false)
    let shape ← read .alternatives
    if !allowed shape then failure
    if ← atEnd then return ((false, if first then some shape else none), false)
    operator ","
    return ((false, none), true)
  return only

/-- The number of a positional field, written in plain decimals. -/
def fieldNumber : Reader Unit := do
  match ← aside takeToken with
  | (.literal text, _) => match Literal.fieldNumber? text with
    | some number => write [.literal (Nat.repr number)]
    | none => failure
  | _ => failure

def fieldPattern : Reader Unit := do
  if ← sees (wordNext "box") then
    verbatim do
      word "box"
      discard (word? "ref")
      discard (word? "mut")
      name
    return
  let byReference ← word? "ref"
  let changeable ← word? "mut"
  if byReference || changeable then name
  else if ← sees literalTokenNext then
    fieldNumber
    operator ":"
    discard (read .alternatives)
  else
    name
    if ← operator? ":" then discard (read .alternatives)

def fieldPatterns : Reader Unit :=
  group .brace do
    repeating do
      if ← atEnd then return false
      outerAttributes read
      if ← operator? ".." then return false
      fieldPattern read
      if ← atEnd then return false
      operator ","
      return true

def pathPattern : Reader PatternShape := do
  let (qualified, shape) ← qualifiedPath read true
  if ← sees (macroCallNext qualified shape) then
    discard macroCall
    return .plain
  if ← sees (groupNext .brace) then
    fieldPatterns read
    return .plain
  if ← sees (groupNext .parenthesis) then
    discard (group .parenthesis (patternList read fun _ => true))
    return .plain
  if ← sees (operatorNext "..") then rangeEnd read true
  else return .plain

/-- A name to bind, perhaps with a pattern of its own. -/
def bindingPattern : Reader Unit := do
  discard (word? "ref")
  discard (word? "mut")
  if ← sees (wordNext "self") then word "self" else name
  if ← operator? "@" then discard (read .pattern)

/-- Whether a pattern begins with a path that is more than a name. -/
def pathPatternNext (tokens : List Token) : Bool :=
  let after := skip tokens
  (nameNext tokens && (operatorNext "::" after || operatorNext "!" after ||
      groupNext .brace after || groupNext .parenthesis after || operatorNext ".." after)) ||
    (wordNext "self" tokens && operatorNext "::" after) ||
    operatorNext "::" tokens || operatorNext "<" tokens ||
    oneOfWordsNext ["Self", "super", "crate"] tokens

def pattern : Reader PatternShape := do
  if ← sees pathPatternNext then pathPattern read
  else if ← word? "_" then return .plain
  else if ← sees (wordNext "box") then
    verbatim do
      word "box"
      discard (read .pattern)
    return .plain
  else if ← sees fun tokens => operatorNext "-" tokens || literalNext tokens ||
      wordNext "const" tokens then
    discard (rangeBound? read)
    if ← sees (operatorNext "..") then rangeEnd read true else return .plain
  else if ← sees fun tokens => oneOfWordsNext ["ref", "mut", "self"] tokens || nameNext tokens then
    bindingPattern read
    return .plain
  else if ← sees (operatorNext "&") then
    operator "&"
    discard (word? "mut")
    discard (read .pattern)
    return .plain
  else if ← sees (groupNext .parenthesis) then
    discard (group .parenthesis (patternList read fun _ => true))
    return .plain
  else if ← sees (groupNext .bracket) then
    discard (group .bracket (patternList read fun shape => shape != .openRange))
    return .plain
  else if ← sees fun tokens => operatorNext ".." tokens && !operatorNext "..." tokens then
    let inclusive ← operator? "..="
    if !inclusive then operator ".."
    let ended ← rangeBound? read
    if ended then return .openRange
    if inclusive then failure
    return .rest
  else failure

def alternatives : Reader PatternShape := do
  let alternativeNext (tokens : List Token) : Bool :=
    operatorNext "|" tokens && !operatorNext "||" tokens && !operatorNext "|=" tokens
  let leading ← operator? "|"
  let shape ← read .pattern
  if leading || (← sees alternativeNext) then
    repeating do
      if ← sees alternativeNext then
        operator "|"
        discard (read .pattern)
        return true
      return false
    return .plain
  return shape

end Grammar
end Source
end Assurance
