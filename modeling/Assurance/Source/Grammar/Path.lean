import Assurance.Source.Grammar.Category

namespace Assurance
namespace Source
namespace Grammar

/-!
# Paths, attributes and macro calls

A path is a list of segments.  In an expression the arguments of a segment stand
behind two colons, so that a comparison is not taken for them.
-/

open Reader Tokens

variable (read : Readers)

def plainPath : Reader Unit := do
  discard (operator? "::")
  repeating do
    if (← sees nameNext) || (← sees (oneOfWordsNext ["super", "self", "Self", "crate"])) then
      anyWord
      operator? "::"
    else failure

def attributeContent : Reader Unit := do
  if ← sees (wordNext "unsafe") then word "unsafe" else plainPath
  if ← sees anyGroupNext then discard anyGroup
  else if ← sees fun tokens => operatorNext "=" tokens && !operatorNext "==" tokens &&
      !operatorNext "=>" tokens then
    operator "="
    if ← sees fun tokens => operatorNext "#" tokens && groupNext .bracket (skip tokens) then failure
    -- A literal alone is taken out of a group with invisible delimiters, an expression is not.
    if (← ahead literal) = some [] then literal else discard (read (.expression true))

def outerAttribute : Reader Unit := do
  operator "#"
  group .bracket (attributeContent read)

def outerAttributes : Reader Unit :=
  repeating do
    if ← sees (operatorNext "#") then
      outerAttribute read
      return true
    return false

/-- Whether an attribute of what surrounds it comes next. -/
def innerAttributeNext (tokens : List Token) : Bool :=
  operatorNext "#" tokens && operatorNext "!" (skip tokens)

/-- The attributes of what surrounds them. -/
def innerAttributes : Reader Unit :=
  repeating do
    if ← sees innerAttributeNext then
      operator "#"
      operator "!"
      group .bracket (attributeContent read)
      return true
    return false

def block : Reader Unit := group .brace (read .statements)

/-- A block that may begin with attributes of its own. -/
def attributedBlock : Reader Unit :=
  group .brace do
    innerAttributes read
    read .statements

/-- An entry of a list between angle brackets: its tokens and whether a comma followed it. -/
structure Entry where
  isLifetime : Bool
  tokens : List Token
  comma : Bool

/-- The entries between angle brackets; the reader of one tells whether it is a lifetime. -/
def entries (entry : Reader Bool) : Reader (List Entry) :=
  repeatingFrom [] fun found => do
    if ← sees (operatorNext ">") then return (found, false)
    let (isLifetime, tokens) ← aside entry
    if ← sees (operatorNext ">") then return (found ++ [⟨isLifetime, tokens, false⟩], false)
    let _ ← aside (operator ",")
    return (found ++ [⟨isLifetime, tokens, true⟩], true)

/-- An entry with the comma that followed it. -/
def Entry.written (entry : Entry) : List Token :=
  entry.tokens ++ if entry.comma then Token.operator "," else []

/-- Entries with the lifetimes first. -/
def arranged (entries : List Entry) : List Token :=
  let (lifetimes, others) := entries.partition Entry.isLifetime
  let comma := match lifetimes.getLast?, others with
    | some last, _ :: _ => if last.comma then [] else Token.operator ","
    | _, _ => []
  lifetimes.flatMap Entry.written ++ comma ++ others.flatMap Entry.written

/-- Angle brackets with entries between them, the lifetimes first; tells whether there are any. -/
def angled (entry : Reader Bool) : Reader Bool := do
  operator "<"
  let entries ← entries entry
  write (arranged entries)
  operator ">"
  return !entries.isEmpty

/-- A constant as an argument. -/
def constantArgument : Reader Unit := do
  if ← sees literalNext then literal else attributedBlock read

def resultType (sums : Bool) : Reader Unit := do
  if ← operator? "->" then discard (read (.type sums))

/-- Arguments in parentheses, with a result type. -/
def parenthesisedArguments : Reader Unit := do
  group .parenthesis (commaList (discard (read (.type true))))
  resultType read false

/-- Whether arguments in parentheses come next. -/
def parenthesisedNext (tokens : List Token) : Bool :=
  groupNext .parenthesis tokens ||
    (operatorNext "::" tokens && groupNext .parenthesis (skipTwo tokens))

def PathShape.extended (shape : PathShape) (arguments : Arguments) : PathShape :=
  { shape with single := false, plain := shape.plain && arguments = .absent, last := arguments }

/-! ## Segments -/

/-- One argument of a segment; tells whether it is a lifetime. -/
def segmentArgument : Reader Bool := do
  let constantNext (tokens : List Token) : Bool := literalNext tokens || groupNext .brace tokens
  if ← sees fun tokens => lifetimeNext tokens && !operatorNext "+" (skip tokens) then
    lifetime
    return true
  if ← sees constantNext then constantArgument read
  else
    let shape ← read (.type true)
    if shape.isSegment then
      if ← operator? "=" then
        if ← sees constantNext then constantArgument read else discard (read (.type true))
      else if ← operator? ":" then
        joined (fun tokens => operatorNext "," tokens || operatorNext ">" tokens)
          (discard (read (.bound false true))) "+"
  return false

/-- The arguments of a segment; tells whether there are any. -/
def segmentArguments : Reader Bool := do
  discard (operator? "::")
  angled (segmentArgument read)

/-- Whether arguments of a segment come next. -/
def segmentArgumentsNext (inExpression : Bool) (tokens : List Token) : Bool :=
  (!inExpression && operatorNext "<" tokens && !operatorNext "<=" tokens &&
      !operatorNext "<<=" tokens) ||
    (operatorNext "::" tokens && operatorNext "<" (skipTwo tokens))

def segment (inExpression : Bool) : Reader Arguments := do
  if ← sees (oneOfWordsNext ["super", "self", "crate", "try"]) then
    anyWord
    return .absent
  if ← sees (wordNext "Self") then word "Self" else name
  if ← sees (segmentArgumentsNext inExpression) then
    return if ← segmentArguments read then .present else .empty
  return .absent

/-- The segments that follow some. -/
def moreSegments (inExpression : Bool) (shape : PathShape) : Reader PathShape :=
  repeatingFrom shape fun shape => do
    if ← sees fun tokens => operatorNext "::" tokens &&
        !groupNext .parenthesis (skipTwo tokens) then
      operator "::"
      return (shape.extended (← segment read inExpression), true)
    return (shape, false)

/-- A path that is not qualified by a type. -/
def path (inExpression : Bool) : Reader PathShape := do
  let leading ← operator? "::"
  let arguments ← segment read inExpression
  moreSegments read inExpression ⟨leading, true, arguments = .absent, arguments⟩

/-- A path, qualified by a type or not; tells whether it is. -/
def qualifiedPath (inExpression : Bool) : Reader (Bool × PathShape) := do
  if ← sees (operatorNext "<") then
    operator "<"
    discard (read (.type true))
    if ← word? "as" then discard (path read false)
    operator ">"
    operator "::"
    let shape ← repeatingFrom (⟨false, false, true, .absent⟩ : PathShape) fun shape => do
      let shape := shape.extended (← segment read inExpression)
      return (shape, ← operator? "::")
    return (true, shape)
  else
    return (false, ← path read inExpression)

/-- Whether a macro call continues a path. -/
def macroCallNext (qualified : Bool) (shape : PathShape) (tokens : List Token) : Bool :=
  !qualified && shape.plain && operatorNext "!" tokens && !operatorNext "!=" tokens

/-- What a macro call adds to a path. -/
def macroCall : Reader Delimiter := do
  operator "!"
  anyGroup

/-! ## Visibility -/

/-- Whether what stands in parentheses restricts a visibility. -/
def restricts (tokens : List Token) : Bool :=
  match visible tokens with
  | [.ident false name] => ["crate", "self", "super"].contains name
  | .ident false name :: _ => name == "in"
  | _ => false

/-- Whether parentheses that restrict a visibility come next. -/
def restrictionNext (tokens : List Token) : Bool :=
  match visible tokens with
  | .group .parenthesis inner :: _ => restricts inner
  | _ => false

/-- Whether a visibility comes next that a macro has left empty. -/
def emptyGroupNext : List Token → Bool
  | .group .invisible [] :: _ => true
  | _ => false

/-- How visible an item is; tells whether anything was said. -/
def visibility : Reader Bool := do
  if ← sees emptyGroupNext then
    discard (aside (group .invisible (pure ())))
    return false
  if ← sees (wordNext "pub") then
    word "pub"
    if ← sees restrictionNext then
      group .parenthesis do
        if ← word? "in" then plainPath else anyWord
    return true
  return false

end Grammar
end Source
end Assurance
