import Assurance.Source.Grammar.Operator
import Assurance.Source.Grammar.Pattern

namespace Assurance
namespace Source
namespace Grammar

/-!
# Expressions

Where a block may follow, records are not built without parentheses, so that the
brace is taken for the block.
-/

open Reader Tokens

variable (read : Readers)

/-- Whether an expression may come next. -/
def expressionNext (tokens : List Token) : Bool :=
  (anyWordNext tokens && !wordNext "as" tokens) || anyGroupNext tokens || literalNext tokens ||
    (operatorNext "!" tokens && !operatorNext "!=" tokens) ||
    (operatorNext "-" tokens && !operatorNext "-=" tokens && !operatorNext "->" tokens) ||
    (operatorNext "*" tokens && !operatorNext "*=" tokens) ||
    (operatorNext "|" tokens && !operatorNext "|=" tokens) ||
    (operatorNext "&" tokens && !operatorNext "&=" tokens) || operatorNext ".." tokens ||
    (operatorNext "<" tokens && !operatorNext "<=" tokens && !operatorNext "<<=" tokens) ||
    operatorNext "::" tokens || lifetimeNext tokens || operatorNext "#" tokens

def conditional : Reader Unit :=
  repeating do
    word "if"
    discard (read (.expression false))
    block read
    if ← word? "else" then
      if ← sees (wordNext "if") then return true
      block read
    return false

def arm : Reader Unit := do
  outerAttributes read
  discard (read .alternatives)
  if ← word? "if" then discard (read (.expression true))
  operator "=>"
  let shape ← read (.early false)
  if shape = .block || (← atEnd) then discard (operator? ",") else operator ","

def matching : Reader Unit := do
  word "match"
  discard (read (.expression false))
  group .brace do
    innerAttributes read
    repeating do
      if ← atEnd then return false
      arm read
      return true

def loopOrBlock : Reader Unit := do
  if ← word? "while" then
    discard (read (.expression false))
    attributedBlock read
  else if ← word? "for" then
    discard (read .alternatives)
    word "in"
    discard (read (.expression false))
    attributedBlock read
  else if ← word? "loop" then attributedBlock read
  else attributedBlock read

/-- A loop or block with a label. -/
def labelled : Reader Unit := do
  lifetime
  operator ":"
  loopOrBlock read

/-- An expression that ends in a block. -/
def blockExpression : Reader Unit := do
  if ← sees (wordNext "if") then conditional read
  else if ← sees (wordNext "match") then matching read
  else if ← sees lifetimeNext then labelled read
  else if ← word? "try" then block read
  else if ← word? "unsafe" then attributedBlock read
  else if ← word? "const" then attributedBlock read
  else loopOrBlock read

/-- Whether lifetimes of a closure come next. -/
def closureLifetimesNext (tokens : List Token) : Bool :=
  wordNext "for" tokens && parametersNext (skip tokens)

def closureNext (tokens : List Token) : Bool :=
  operatorNext "|" tokens || wordNext "move" tokens || closureLifetimesNext tokens ||
    (wordNext "const" tokens && !groupNext .brace (skip tokens)) || wordNext "static" tokens ||
    (wordNext "async" tokens && (operatorNext "|" (skip tokens) || wordNext "move" (skip tokens)))

/-- One parameter of a closure.  A boxed pattern without a type loses its attributes. -/
def closureParameter : Reader Unit := do
  let (_, attributes) ← aside (outerAttributes read)
  let boxed ← sees (wordNext "box")
  let (_, pattern) ← aside (read .pattern)
  let typed ← sees (operatorNext ":")
  if typed || !boxed then write attributes
  write pattern
  if ← operator? ":" then discard (read (.type true))

def closure (records : Bool) : Reader Unit := do
  discard (boundLifetimes? read)
  discard (word? "const")
  discard (word? "static")
  discard (word? "async")
  discard (word? "move")
  operator "|"
  separated (operatorNext "|") (closureParameter read) ","
  operator "|"
  if ← sees (operatorNext "->") then
    resultType read true
    block read
  else discard (read (.expression records))

/-- The end of a loop or a block, perhaps with a value.  Where no records are built the value does
not begin with a brace; inside it they are built again. -/
def breaking (records : Bool) : Reader Unit := do
  word "break"
  if ← sees lifetimeNext then
    lifetime
    if ← sees (operatorNext ":") then failure
  if ← sees fun tokens => expressionNext tokens && (records || !groupNext .brace tokens) then
    discard (read (.expression true))

/-- The next round of a loop. -/
def continuing : Reader Unit := do
  word "continue"
  if ← sees lifetimeNext then lifetime

/-- A jump that may carry a value, in which records may be built wherever it stands. -/
def jump (keyword : String) : Reader Unit := do
  word keyword
  if ← sees expressionNext then discard (read (.expression true))

/-- A call that takes the place of the current one. -/
def tailCall : Reader Unit := do
  word "become"
  discard (read (.expression true))

/-- Whether a call of something built in comes next. -/
def builtinCallNext (tokens : List Token) : Bool :=
  wordNext "builtin" tokens && operatorNext "#" (skip tokens)

/-- A call of something built in. -/
def builtinCall : Reader Unit := do
  word "builtin"
  operator "#"
  name
  anyGroupOf .parenthesis

/-- A condition that matches a pattern. -/
def binding (records : Bool) : Reader Unit := do
  word "let"
  discard (read .alternatives)
  operator "="
  let shape ← read (.unary records)
  discard (read (.operators shape records .comparison))

/-! ## Values -/

def field : Reader Unit := do
  outerAttributes read
  if ← sees literalTokenNext then
    fieldNumber
    operator ":"
    discard (read (.expression true))
  else
    name
    if ← operator? ":" then discard (read (.expression true))

def fields : Reader Unit :=
  group .brace do
    repeating do
      if ← atEnd then return false
      if ← operator? ".." then
        if !(← atEnd) then discard (read (.expression true))
        return false
      field read
      if ← atEnd then return false
      operator ","
      return true

/-- What a path is the beginning of. -/
def pathRest (records qualified : Bool) (shape : PathShape) : Reader ExpressionShape := do
  if ← sees (macroCallNext qualified shape) then
    let delimiter ← macroCall
    return if delimiter = .brace then .bracedMacro else .plain
  if records && (← sees (groupNext .brace)) then
    fields read
    return .plain
  return .path qualified shape

def pathExpression (records : Bool) : Reader ExpressionShape := do
  let (qualified, shape) ← qualifiedPath read true
  pathRest read records qualified shape

/-- An expression in a group with invisible delimiters.  A path may go on behind the group, which it
then leaves. -/
def groupedExpression (records : Bool) : Reader ExpressionShape := do
  let (shape, written) ← aside (group .invisible (read (.expression true)))
  match shape, written with
  | .path qualified path, [.group _ inner] =>
      let (extended, more) ← aside do
        pathRest read records qualified (← moreSegments read true path)
      if more.isEmpty then
        write written
        return .plain
      write (inner ++ more)
      return extended
  | shape, _ =>
      write written
      return if shape = .block || shape = .groupedBlock then .groupedBlock else .plain

/-- A list of values, or one value repeated. -/
def array : Reader Unit :=
  group .bracket do
    if ← atEnd then return
    discard (read (.expression true))
    if ← operator? ";" then discard (read (.expression true))
    else if !(← atEnd) then
      operator ","
      commaList (discard (read (.expression true)))

/-- Whether a macro call or a path begins with the word `try`. -/
def tryPathNext (tokens : List Token) : Bool :=
  wordNext "try" tokens && (operatorNext "!" (skip tokens) || operatorNext "::" (skip tokens))

/-- An expression without operators around it. -/
def atom (records : Bool) : Reader ExpressionShape := do
  let tokens := (← get).rest
  let second := skip tokens
  let plainly (reader : Reader Unit) : Reader ExpressionShape := do
    reader
    return .plain
  let ended (reader : Reader Unit) : Reader ExpressionShape := do
    reader
    return .block
  let kept (reader : Reader Unit) : Reader ExpressionShape := do
    reader
    return .asItStands
  if groupNext .invisible tokens then groupedExpression read records
  else if literalNext tokens then plainly literal
  else if wordNext "async" tokens && (groupNext .brace second ||
      (wordNext "move" second && groupNext .brace (skip second))) then
    plainly do
      word "async"
      discard (word? "move")
      block read
  else if wordNext "try" tokens && groupNext .brace second then ended (blockExpression read)
  else if closureNext tokens then plainly (closure read records)
  else if builtinCallNext tokens then kept builtinCall
  else if pathNext tokens || tryPathNext tokens then pathExpression read records
  else if groupNext .parenthesis tokens then
    plainly (group .parenthesis (commaList (discard (read (.expression true)))))
  else if wordNext "break" tokens then plainly (breaking read records)
  else if wordNext "continue" tokens then plainly continuing
  else if wordNext "return" tokens then plainly (jump read "return")
  else if wordNext "become" tokens then kept (tailCall read)
  else if groupNext .bracket tokens then plainly (array read)
  else if wordNext "let" tokens then plainly (binding read records)
  else if oneOfWordsNext ["if", "while", "for", "loop", "match"] tokens then
    ended (blockExpression read)
  else if wordNext "yield" tokens then plainly (jump read "yield")
  else if oneOfWordsNext ["unsafe", "const"] tokens then ended (blockExpression read)
  else if groupNext .brace tokens then ended (blockExpression read)
  else if operatorNext ".." tokens then
    rangeTail read records
    return .range
  else if wordNext "_" tokens then plainly (word "_")
  else if lifetimeNext tokens then ended (blockExpression read)
  else failure

/-! ## What follows a value -/

/-- The tokens of a chain of positional fields that was read as one number, and whether the chain
goes on behind a last point. -/
def fieldChain? (text : String) : Option (List Token × Bool) := do
  let trailing := text.endsWith "."
  let parts := (text.splitOn ".").filter fun part => !part.isEmpty
  let numbers ← parts.mapM Literal.fieldNumber?
  let tokens := numbers.map fun number => Token.literal (Nat.repr number)
  some (tokens.intersperse (Token.mark '.'), trailing)

def callArguments : Reader Unit :=
  group .parenthesis (commaList (discard (read (.expression true))))

/-- A field, a method call, or a wait, behind its point. -/
def member : Reader Unit := do
  if ← word? "await" then return
  if ← sees literalTokenNext then fieldNumber
  else
    name
    if ← sees (operatorNext "::") then
      operator "::"
      discard (segmentArguments read)
      callArguments read
    else if ← sees (groupNext .parenthesis) then callArguments read

/-- What follows the point behind a value. -/
def afterPoint : Reader Unit := do
  match visible (← get).rest with
  | .literal text :: _ =>
      if Literal.isFraction text then
        discard (aside takeToken)
        match fieldChain? text with
        | some (tokens, trailing) =>
            write tokens
            if trailing then
              write (Token.operator ".")
              member read
        | none => failure
      else member read
  | _ => member read

/-- Whether a point that is no range comes next. -/
def pointNext (tokens : List Token) : Bool :=
  operatorNext "." tokens && !operatorNext ".." tokens

/-- Calls, indices, fields and questions behind a value. -/
def trailers (shape : ExpressionShape) : Reader ExpressionShape :=
  repeatingFrom shape fun shape => do
    if ← sees (groupNext .parenthesis) then
      callArguments read
      return (.plain, true)
    if shape != .range && (← sees pointNext) then
      operator "."
      afterPoint read
      return (.plain, true)
    if ← sees (groupNext .bracket) then
      group .bracket (discard (read (.expression true)))
      return (.plain, true)
    if shape != .range && (← sees (operatorNext "?")) then
      operator "?"
      return (.plain, true)
    return (shape, false)

/-- Whether an attribute of an expression comes next. -/
def expressionAttributeNext (tokens : List Token) : Bool :=
  !groupNext .invisible tokens && operatorNext "#" tokens

/-- The attributes of an expression.  They end before a group with invisible delimiters, which is
the expression. -/
def expressionAttributes : Reader Unit :=
  repeating do
    if ← sees expressionAttributeNext then
      outerAttribute read
      return true
    return false

/-- An expression up to its first binary operator, in standard form. -/
def standardUnary (records : Bool) : Reader ExpressionShape := do
  let attributed ← sees expressionAttributeNext
  expressionAttributes read
  let grouped ← sees (groupNext .invisible)
  if !grouped && (← sees (operatorNext "&")) then
    operator "&"
    let raw (tokens : List Token) : Bool :=
      wordNext "raw" tokens && oneOfWordsNext ["mut", "const"] (skip tokens)
    if ← sees raw then
      word "raw"
      if !(← word? "mut") then word "const"
    else discard (word? "mut")
    discard (read (.unary records))
    return .plain
  let tokens := (← get).rest
  let prefixes := if grouped then [] else ["*", "!", "-"]
  if let some text := prefixes.find? fun text => operatorNext text tokens then
    operator text
    discard (read (.unary records))
    return .plain
  let shape ← trailers read (← atom read records)
  if attributed then
    if shape = .range then failure
    if let .path .. := shape then return .plain
  return shape

/-- An expression up to its first binary operator.  One that is written as it stands keeps its
attributes that way too. -/
def unary (records : Bool) : Reader ExpressionShape :=
  standing do
    let shape ← standardUnary read records
    return (shape, shape = .asItStands)

def expression (records : Bool) : Reader ExpressionShape := do
  let shape ← read (.unary records)
  read (.operators shape records .any)

/-- Whether an expression that is a statement by itself comes next. -/
def blockExpressionNext (tokens : List Token) : Bool :=
  oneOfWordsNext ["if", "while", "loop", "match", "unsafe"] tokens ||
    (wordNext "for" tokens && !closureLifetimesNext tokens) ||
    (oneOfWordsNext ["try", "const"] tokens && groupNext .brace (skip tokens)) ||
    groupNext .brace tokens || lifetimeNext tokens

/-- What stands before the first binary operator of a statement or of the body of a branch. -/
def earlyUnary : Reader ExpressionShape := do
  if ← sees (groupNext .invisible) then
    let shape ← groupedExpression read true
    if shape = .groupedBlock then return shape else trailers read shape
  else if ← sees blockExpressionNext then
    blockExpression read
    if ← sees fun tokens => pointNext tokens || operatorNext "?" tokens then trailers read .block
    else return .block
  else read (.unary true)

/-- An expression that ends after its block if it is a statement by itself.  Attributes of a range
are written before the range in parentheses, and an expression that is written as it stands loses
its attributes.  They belong to a whole statement, but only to the beginning of the body of a
branch. -/
def early (statement : Bool) : Reader ExpressionShape := do
  let (_, attributes) ← aside (if statement then outerAttributes read else expressionAttributes read)
  let ((first, whole), written) ← aside do
    let first ← earlyUnary read
    if first = .block || first = .groupedBlock then return (first, first)
    return (first, ← read (.operators first true .any))
  let ranging := if statement then whole = .range else first = .range
  if ranging && !attributes.isEmpty then write (attributes ++ [.group .parenthesis written])
  else if first = .asItStands then write written
  else write (attributes ++ written)
  return whole

end Grammar
end Source
end Assurance
