import Assurance.Source.Grammar.Member

namespace Assurance
namespace Source
namespace Grammar

/-!
# Items
-/

open Reader Tokens

variable (read : Readers)

/-- The name that something imported gets. -/
def newName : Reader Unit := do
  if !(← word? "_") then name

/-- What an import names.  Tells whether a name inside a group begins at the root. -/
def imports (rooted : Bool) : Reader Bool := do
  if ← sees fun tokens => nameNext tokens ||
      oneOfWordsNext ["self", "super", "crate", "try"] tokens then
    anyWord
    if ← operator? "::" then return ← read (.imports false)
    if ← word? "as" then newName
    return false
  if ← operator? "*" then return false
  group .brace do
    repeatingFrom false fun found => do
      if ← atEnd then return (found, false)
      let atRoot ← if rooted then operator? "::" else pure false
      let inside ← read (.imports (rooted && !atRoot))
      let found := found || atRoot || inside
      if ← atEnd then return (found, false)
      operator ","
      return (found, true)

/-- An import; tells whether it stands as it is. -/
def importItem : Reader Bool := do
  discard visibility
  word "use"
  let atRoot ← operator? "::"
  let found ← read (.imports !atRoot)
  operator ";"
  return found

/-- The declaration of an external library. -/
def externalItem : Reader Unit := do
  discard visibility
  word "extern"
  word "crate"
  if !(← word? "self") then name
  if ← word? "as" then newName
  operator ";"

/-- A function; one without a block stands as it is. -/
def blockFunctionItem : Reader Bool := do
  discard visibility
  discard (signature read false)
  if ← operator? ";" then return true
  attributedBlock read
  return false

def moduleItem : Reader Unit := do
  discard visibility
  discard (word? "unsafe")
  word "mod"
  if !(← word? "try") then name
  if !(← operator? ";") then members read (read .item)

/-- A macro that is defined by one rule, which stands as it is. -/
def ruleItem : Reader Unit := do
  discard visibility
  word "macro"
  name
  if ← sees (groupNext .parenthesis) then anyGroupOf .parenthesis
  anyGroupOf .brace

/-- A macro call, which may define a name. -/
def callItem : Reader Unit := do
  plainPath
  operator "!"
  if ← sees fun tokens => nameNext tokens || wordNext "try" tokens then anyWord
  callTokens

/-- An item behind its attributes; tells whether it stands as it is. -/
def plainItem : Reader Bool := do
  let some tokens ← ahead visibility | failure
  let second := skip tokens
  let standard (reader : Reader Unit) : Reader Bool := do
    reader
    return false
  if signatureNext false tokens then blockFunctionItem read
  else if wordNext "extern" tokens then
    standard (if wordNext "crate" second then externalItem else foreignItem read)
  else if wordNext "use" tokens then importItem read
  else if wordNext "static" tokens then staticItem read
  else if wordNext "const" tokens then
    discard visibility
    let about ← constant read
    return !(about.isPlain && about.hasValue)
  else if wordNext "unsafe" tokens then
    if wordNext "trait" second || (wordNext "auto" second && wordNext "trait" (skip second)) then
      standard (markedTraitItem read)
    else if wordNext "impl" second then implementationItem read
    else if wordNext "extern" second then standard (foreignItem read)
    else standard (moduleItem read)
  else if wordNext "mod" tokens then standard (moduleItem read)
  else if wordNext "type" tokens then
    let about ← namedType read false .beforeDefinition
    return about.bounded || !about.defined
  else if wordNext "struct" tokens then standard (recordItem read)
  else if wordNext "enum" tokens then standard (variantItem read)
  else if wordNext "union" tokens && nameNext second then standard (unionItem read)
  else if wordNext "trait" tokens then standard (traitItem read)
  else if wordNext "auto" tokens && wordNext "trait" second then standard (markedTraitItem read)
  else if wordNext "impl" tokens || (wordNext "default" tokens && !operatorNext "!" second) then
    implementationItem read
  else if wordNext "macro" tokens then
    ruleItem
    return true
  else if !(← sees (wordNext "pub")) && callPathNext tokens then standard callItem
  else failure

def item : Reader Unit :=
  standing do
    outerAttributes read
    return ((), ← plainItem read)

end Grammar
end Source
end Assurance
