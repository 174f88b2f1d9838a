import Assurance.Source.Grammar.Expression

namespace Assurance
namespace Source
namespace Grammar

/-!
# Statements

A statement is a declaration of variables, an item, a macro call or an
expression.  Only the last statement of a block may lack its semicolon, unless
it ends in a block.
-/

open Reader Tokens

variable (read : Readers)

/-- Whether a function may begin after the word `async`. -/
def asyncFunctionNext (tokens : List Token) : Bool :=
  oneOfWordsNext ["unsafe", "extern", "fn"] tokens

/-- Whether a static variable comes next, and no closure. -/
def staticItemNext (tokens : List Token) : Bool :=
  wordNext "static" tokens && (wordNext "mut" (skip tokens) || nameNext (skip tokens))

/-- Whether a constant or a constant function comes next, and no block or closure. -/
def constantItemNext (tokens : List Token) : Bool :=
  let second := skip tokens
  wordNext "const" tokens &&
    !(groupNext .brace second || wordNext "static" second ||
      (wordNext "async" second && !asyncFunctionNext (skip second)) || wordNext "move" second ||
      operatorNext "|" second)

def itemNext (tokens : List Token) : Bool :=
  let second := skip tokens
  oneOfWordsNext ["pub", "extern", "use", "fn", "mod", "type", "struct", "enum", "trait", "impl",
      "macro"] tokens ||
    (wordNext "crate" tokens && !operatorNext "::" second) ||
    staticItemNext tokens || constantItemNext tokens ||
    (wordNext "unsafe" tokens && !groupNext .brace second) ||
    (wordNext "async" tokens && asyncFunctionNext second) ||
    (wordNext "union" tokens && nameNext second) ||
    (wordNext "auto" tokens && wordNext "trait" second) ||
    (wordNext "default" tokens && oneOfWordsNext ["unsafe", "impl"] second)

/-- Whether a macro call that defines a name continues a path. -/
def definingCallNext (tokens : List Token) : Bool :=
  operatorNext "!" tokens && (nameNext (skip tokens) || wordNext "try" (skip tokens))

/-- Whether a macro call that is a statement by itself continues a path. -/
def bracedCallNext (tokens : List Token) : Bool :=
  operatorNext "!" tokens && groupNext .brace (skip tokens) &&
    !(pointNext (skipTwo tokens) || operatorNext "?" (skipTwo tokens))

def endsInBlock (tokens : List Token) : Bool :=
  match tokens.getLast? with
  | some (.group delimiter _) => delimiter = .brace
  | _ => false

def declaration : Reader Unit := do
  word "let"
  discard (read .pattern)
  if ← operator? ":" then discard (read (.type true))
  if ← operator? "=" then
    let (_, value) ← aside (read (.expression true))
    write value
    if !endsInBlock value && (← sees (wordNext "else")) then
      word "else"
      block read
  operator ";"

/-- One statement; tells whether another one may follow it. -/
def statement : Reader Bool := do
  let some tokens ← ahead (outerAttributes read) | failure
  let afterPath := (← ahead (do outerAttributes read; plainPath)).getD []
  if bracedCallNext afterPath then
    outerAttributes read
    plainPath
    discard macroCall
    discard (operator? ";")
    return true
  else if wordNext "let" tokens && !groupNext .invisible tokens then
    outerAttributes read
    declaration read
    return true
  else if itemNext tokens || definingCallNext afterPath then
    read .item
    return true
  else
    let shape ← read (.early true)
    if ← operator? ";" then return true
    return shape = .block || shape = .bracedMacro

def statements : Reader Unit :=
  repeating do
    repeating (operator? ";")
    if ← atEnd then return false
    let closed ← statement read
    if ← atEnd then return false
    if closed then return true else failure

end Grammar
end Source
end Assurance
