import Assurance.Source.Grammar.Type

namespace Assurance
namespace Source
namespace Grammar

/-!
# Operators

Binary operators by precedence.  Comparisons do not chain, a range is no
operand, and assignments associate to the right.
-/

open Reader Tokens

variable (read : Readers)

/-- The binary operators; one that begins another one stands behind it. -/
def binaryOperators : List (String × Precedence) :=
  [("+=", .assignment), ("-=", .assignment), ("*=", .assignment), ("/=", .assignment),
   ("%=", .assignment), ("^=", .assignment), ("&=", .assignment), ("|=", .assignment),
   ("<<=", .assignment), (">>=", .assignment), ("&&", .and), ("||", .or), ("<<", .shift),
   (">>", .shift), ("==", .comparison), ("<=", .comparison), ("!=", .comparison),
   (">=", .comparison), ("+", .sum), ("-", .sum), ("*", .product), ("/", .product),
   ("%", .product), ("^", .bitXor), ("&", .bitAnd), ("|", .bitOr), ("<", .comparison),
   (">", .comparison)]

/-- The binary operator that comes next, if one does. -/
def binaryOperatorNext? (tokens : List Token) : Option (String × Precedence) :=
  binaryOperators.find? fun (text, _) => operatorNext text tokens

def assignmentNext (tokens : List Token) : Bool :=
  operatorNext "=" tokens && !operatorNext "=>" tokens

/-- The precedence of what comes next, if it continues an expression. -/
def precedenceNext (tokens : List Token) : Precedence :=
  match binaryOperatorNext? tokens with
  | some (_, precedence) => precedence
  | none =>
      if assignmentNext tokens then .assignment
      else if operatorNext ".." tokens then .range
      else if wordNext "as" tokens then .cast
      else .any

/-- Whether a range ends without an end. -/
def openRangeNext (records : Bool) (tokens : List Token) : Bool :=
  tokens.isEmpty || operatorNext "," tokens || operatorNext ";" tokens ||
    (operatorNext "." tokens && !operatorNext ".." tokens) || operatorNext "?" tokens ||
    operatorNext "=>" tokens || (!records && groupNext .brace tokens) ||
    operatorNext "=" tokens || operatorNext "+" tokens || operatorNext "/" tokens ||
    operatorNext "%" tokens || operatorNext "^" tokens || operatorNext ">" tokens ||
    operatorNext "<=" tokens || operatorNext "!=" tokens || operatorNext "-=" tokens ||
    operatorNext "*=" tokens || operatorNext "&=" tokens || operatorNext "|=" tokens ||
    operatorNext "<<=" tokens || wordNext "as" tokens

def rangeTail (records : Bool) : Reader Unit := do
  if ← sees (operatorNext "...") then failure
  let inclusive ← operator? "..="
  if !inclusive then operator ".."
  if inclusive || !(← sees (openRangeNext records)) then discard (read (.operand records .range))

/-- The type of a cast.  A comparison may follow it, so no arguments follow a group. -/
def castType : Reader Unit := do
  if ← sees (groupNext .invisible) then discard (groupedType read false)
  else discard (read (.type false))

/-- Whether something comes next that may not follow a cast. -/
def castEnds (tokens : List Token) : Bool :=
  !((operatorNext "." tokens && !operatorNext ".." tokens) || operatorNext "?" tokens ||
    groupNext .bracket tokens || groupNext .parenthesis tokens)

/-- The operators after an expression, down to some precedence. -/
def operators (left : ExpressionShape) (records : Bool) (base : Precedence) :
    Reader ExpressionShape := do
  let tokens := (← get).rest
  if left = .range then return left
  match binaryOperatorNext? tokens with
  | some (text, precedence) =>
      if !precedence.atLeast base then return left
      if precedence = .comparison && left = .comparison then failure
      operator text
      discard (read (.operand records precedence))
      let shape := if precedence = .comparison then .comparison else .plain
      read (.operators shape records base)
  | none =>
      if Precedence.assignment.atLeast base && assignmentNext tokens then
        operator "="
        discard (read (.operand records .assignment))
        read (.operators .plain records base)
      else if Precedence.range.atLeast base && operatorNext ".." tokens then
        rangeTail read records
        read (.operators .range records base)
      else if Precedence.cast.atLeast base && wordNext "as" tokens then
        word "as"
        castType read
        if !(← sees castEnds) then failure
        read (.operators .plain records base)
      else return left

def operand (records : Bool) (base : Precedence) : Reader ExpressionShape := do
  let shape ← read (.unary records)
  read (.operandRest shape records base)

/-- The operators that bind more tightly than the one before a right operand. -/
def operandRest (left : ExpressionShape) (records : Bool) (base : Precedence) :
    Reader ExpressionShape := do
  let next := precedenceNext (← get).rest
  if base.level < next.level || (next = .assignment && base = .assignment) then
    let before := (← get).rest
    let shape ← read (.operators left records next)
    if (← get).rest = before then return shape
    read (.operandRest shape records base)
  else return left

end Grammar
end Source
end Assurance
