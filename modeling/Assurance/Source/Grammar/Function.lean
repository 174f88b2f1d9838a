import Assurance.Source.Grammar.Statement

namespace Assurance
namespace Source
namespace Grammar

/-!
# Functions

A function is a signature and a block.  The receiver of a method can only be its
first parameter.
-/

open Reader Tokens

variable (read : Readers)

def receiver : Reader Unit := do
  let byReference ← operator? "&"
  if byReference && (← sees lifetimeNext) then lifetime
  discard (word? "mut")
  word "self"
  if !byReference && (← sees (operatorNext ":")) then
    operator ":"
    discard (read (.type true))

/-- What a parameter can be. -/
inductive ParameterShape where
  | typed
  | receiver
  /-- Any number of parameters. -/
  | variadic
deriving DecidableEq, Repr

/-- A parameter whose attributes have been read.  A generic type may stand without a pattern. -/
def functionParameter : Reader ParameterShape := do
  if ← operator? "..." then return .variadic
  if (← orNothing (receiver read)).isSome then return .receiver
  if ← sees fun tokens => nameNext tokens && operatorNext "<" (skip tokens) then
    write [Token.word "_", Token.mark ':']
    discard (read (.type true))
    return .typed
  discard (read .pattern)
  operator ":"
  if ← operator? "..." then return .variadic
  discard (read (.type true))
  return .typed

def functionParameters : Reader Unit :=
  group .parenthesis do
    discard <| repeatingFrom true fun first => do
      if ← atEnd then return (first, false)
      outerAttributes read
      let shape ← functionParameter read
      if shape = .receiver && !first then failure
      if ← atEnd then return (false, false)
      operator ","
      return (false, shape != .variadic)

/-- What a signature says about its function. -/
structure Signature where
  /-- It is asynchronous. -/
  isAsync : Bool
  /-- It is marked as safe to call. -/
  isSafe : Bool
  /-- The result type, if there is one. -/
  result : Option (List Token)

/-- Leave out a keyword that comes first. -/
def withoutWord (keyword : String) (tokens : List Token) : List Token :=
  if wordNext keyword tokens then skip tokens else tokens

/-- Whether a signature comes next; it may be marked as safe or not. -/
def signatureNext (markedSafe : Bool) (tokens : List Token) : Bool :=
  let tokens := withoutWord "async" (withoutWord "const" tokens)
  let mark := if markedSafe && wordNext "safe" tokens then "safe" else "unsafe"
  let tokens := withoutWord mark tokens
  let tokens :=
    if wordNext "extern" tokens then
      if textNext (skip tokens) then skipTwo tokens else skip tokens
    else tokens
  wordNext "fn" tokens

def result : Reader (Option (List Token)) := do
  if ← operator? "->" then
    let (_, type) ← aside (read (.type true))
    write type
    return some type
  return none

/-- A signature; it may be marked as safe or not. -/
def signature (markedSafe : Bool) : Reader Signature := do
  discard (word? "const")
  let isAsync ← word? "async"
  let isUnsafe ← word? "unsafe"
  let isSafe ← if markedSafe && !isUnsafe then word? "safe" else pure false
  convention
  word "fn"
  name
  generics read
  functionParameters read
  let result ← result read
  conditions read
  return { isAsync, isSafe, result }

/-- A function as an item, in its parts. -/
structure FunctionItem where
  outerAttributes : List Token
  /-- The attributes that stand inside the block. -/
  innerAttributes : List Token
  visibility : List Token
  isAsync : Bool
  signature : List Token
  /-- The result type, if there is one. -/
  result : Option (List Token)
  /-- The block without the attributes inside it. -/
  block : Token
deriving DecidableEq

/-- What stands before the block of a function; nothing is written.  Tells what the signature says,
and the tokens of the attributes, the visibility and the signature. -/
def functionHead : Reader (Signature × List Token × List Token × List Token) := do
  let (_, outer) ← aside (outerAttributes read)
  let (_, visible) ← aside visibility
  let (about, declared) ← aside (signature read false)
  return (about, outer, visible, declared)

/-- What stands in the braces of a function.  The attributes there are not written, but told. -/
def functionBody : Reader (List Token) := do
  let (_, inner) ← aside (innerAttributes read)
  read .statements
  return inner

/-- A function with its attributes; nothing is written. -/
def functionItem : Reader FunctionItem := do
  let (about, outer, visible, declared) ← functionHead read
  let (inner, braced) ← aside (group .brace (functionBody read))
  let [block] := braced | failure
  return {
    outerAttributes := outer
    innerAttributes := inner
    visibility := visible
    isAsync := about.isAsync
    signature := declared
    result := about.result
    block }

end Grammar
end Source
end Assurance
