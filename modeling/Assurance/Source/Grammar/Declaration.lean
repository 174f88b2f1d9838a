import Assurance.Source.Grammar.Function

namespace Assurance
namespace Source
namespace Grammar

/-!
# Declarations of types and values

The readers of the parts of an item tell what decides whether the item is put
into standard form: an unusual one is written exactly as it stands.
-/

open Reader Tokens

variable (read : Readers)

/-- A named field of a type.  A field without a name may have fields of its own, which are written
exactly as they stand. -/
def namedField : Reader Unit := do
  outerAttributes read
  discard visibility
  let unnamed ← word? "_"
  if !unnamed then name
  operator ":"
  let nestedNext (tokens : List Token) : Bool :=
    wordNext "struct" tokens || (wordNext "union" tokens && groupNext .brace (skip tokens))
  if unnamed && (← sees nestedNext) then
    verbatim do
      anyWord
      read .namedFields
  else discard (read (.type true))

def namedFields : Reader Unit := group .brace (commaList (namedField read))

def positionalFields : Reader Unit :=
  group .parenthesis <| commaList do
    outerAttributes read
    discard visibility
    discard (read (.type true))

/-- The fields of a record type and the conditions on its parameters, in either order. -/
def recordFields : Reader Unit := do
  if ← sees (groupNext .parenthesis) then
    positionalFields read
    conditions read
    operator ";"
  else
    conditions read
    if ← sees (groupNext .brace) then read .namedFields else operator ";"

def recordItem : Reader Unit := do
  discard visibility
  word "struct"
  name
  generics read
  recordFields read

/-- A variant of a type.  What it says about its visibility is left out. -/
def variant : Reader Unit := do
  outerAttributes read
  discard (aside visibility)
  name
  if ← sees (groupNext .brace) then read .namedFields
  else if ← sees (groupNext .parenthesis) then positionalFields read
  if ← operator? "=" then discard (read (.expression true))

def variantItem : Reader Unit := do
  discard visibility
  word "enum"
  name
  generics read
  conditions read
  group .brace (commaList (variant read))

/-- A type whose fields share their place. -/
def unionItem : Reader Unit := do
  discard visibility
  word "union"
  name
  generics read
  conditions read
  read .namedFields

/-- Where the conditions on the parameters of a named type may stand. -/
inductive ConditionsPlace where
  | beforeDefinition | behindDefinition | both
deriving DecidableEq, Repr

/-- What was said about a named type. -/
structure NamedType where
  visible : Bool
  bounded : Bool
  defined : Bool

def namedType (mayDefault : Bool) (place : ConditionsPlace) : Reader NamedType := do
  let visible ← visibility
  if mayDefault then discard (word? "default")
  word "type"
  name
  generics read
  let bounded ← sees (operatorNext ":")
  colonBounds read fun tokens => wordNext "where" tokens || operatorNext "=" tokens ||
    operatorNext ";" tokens
  let conditional ← sees (wordNext "where")
  if place != .behindDefinition then conditions read
  let defined ← operator? "="
  if defined then discard (read (.type true))
  if place = .behindDefinition || (place = .both && !conditional) then conditions read
  operator ";"
  return { visible, bounded, defined }

/-- What was said about a constant. -/
structure Constant where
  /-- It has no parameters and no conditions on them. -/
  isPlain : Bool
  hasValue : Bool

/-- A constant, behind its visibility. -/
def constant : Reader Constant := do
  word "const"
  if !(← word? "_") then name
  let parametrised ← sees (operatorNext "<")
  generics read
  operator ":"
  discard (read (.type true))
  let hasValue ← operator? "="
  if hasValue then discard (read (.expression true))
  let conditional ← sees (wordNext "where")
  conditions read
  operator ";"
  return { isPlain := !parametrised && !conditional, hasValue }

/-- A static variable; tells whether it stands as it is, for want of a type or a value. -/
def staticItem : Reader Bool := do
  discard visibility
  word "static"
  discard (word? "mut")
  name
  let typed ← operator? ":"
  if typed then discard (read (.type true))
  let valued ← if typed then operator? "=" else do operator "="; pure true
  if valued then discard (read (.expression true))
  operator ";"
  return !(typed && valued)

/-- Whether the path of a macro call comes next. -/
def callPathNext (tokens : List Token) : Bool :=
  nameNext tokens || oneOfWordsNext ["self", "super", "crate"] tokens || operatorNext "::" tokens

/-- The tokens of a macro call, with the semicolon that tokens outside of braces need. -/
def callTokens : Reader Unit := do
  if (← anyGroup) != .brace then operator ";"

/-- A macro call among the members of an item. -/
def callMember : Reader Unit := do
  plainPath
  operator "!"
  callTokens

end Grammar
end Source
end Assurance
