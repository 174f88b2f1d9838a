import Assurance.Source.Grammar.Declaration

namespace Assurance
namespace Source
namespace Grammar

/-!
# Members

The members of traits, implementations and foreign blocks.  The reader of an
item with members tells whether the item stands as it is.
-/

open Reader Tokens

variable (read : Readers)

/-- Members in braces, after the attributes of what surrounds them. -/
def members (member : Reader Unit) : Reader Unit :=
  group .brace do
    innerAttributes read
    repeating do
      if ← atEnd then return false
      member
      return true

def traitMember : Reader Unit :=
  standing do
    outerAttributes read
    let visible ← visibility
    let defaulted ← word? "default"
    let unusual := visible || defaulted
    let tokens := (← get).rest
    if signatureNext false tokens then
      discard (signature read false)
      if ← sees (groupNext .brace) then attributedBlock read else operator ";"
      return ((), unusual)
    else if wordNext "const" tokens then
      let about ← constant read
      return ((), unusual || !about.isPlain)
    else if wordNext "type" tokens then
      discard (namedType read false .behindDefinition)
      return ((), unusual)
    else if !unusual && callPathNext tokens then
      callMember
      return ((), false)
    else failure

/-- A trait, behind its parameters. -/
def traitRest : Reader Unit := do
  colonBounds read fun tokens => wordNext "where" tokens || groupNext .brace tokens
  conditions read
  members read (traitMember read)

/-- A trait that is marked as unsafe or automatic. -/
def markedTraitItem : Reader Unit := do
  discard visibility
  discard (word? "unsafe")
  discard (word? "auto")
  word "trait"
  name
  generics read
  traitRest read

def traitItem : Reader Unit := do
  discard visibility
  word "trait"
  name
  generics read
  if ← operator? "=" then
    joined (fun tokens => wordNext "where" tokens || operatorNext ";" tokens)
      (discard (read (.bound false true))) "+"
    conditions read
    operator ";"
  else traitRest read

def implementationMember : Reader Unit :=
  standing do
    outerAttributes read
    let visible ← sees (wordNext "pub")
    let some tokens ← ahead visibility | failure
    let defaulted := wordNext "default" tokens && !operatorNext "!" (skip tokens)
    let tokens := if defaulted then skip tokens else tokens
    if signatureNext false tokens then
      discard visibility
      discard (word? "default")
      discard (signature read false)
      if ← operator? ";" then return ((), true)
      attributedBlock read
      return ((), false)
    else if wordNext "const" tokens then
      discard visibility
      discard (word? "default")
      let about ← constant read
      return ((), !(about.isPlain && about.hasValue))
    else if wordNext "type" tokens then
      let about ← namedType read true .behindDefinition
      return ((), about.bounded || !about.defined)
    else if !visible && !defaulted && callPathNext tokens then
      callMember
      return ((), false)
    else failure

/-- The type that an implementation is for, or the trait that it implements or is said not to
implement.  A trait is written without invisible delimiters around it. -/
def implemented : Reader TypeShape := do
  let negated ← sees fun tokens => operatorNext "!" tokens && !groupNext .brace (skip tokens)
  if negated then operator "!"
  let (shape, written) ← aside (read (.type true))
  let isFor ← sees (wordNext "for")
  if negated && !isFor then failure
  write (if isFor && shape = .groupedPath then visible written else written)
  return shape

/-- An implementation.  It stands as it is if it says how visible it is, if it is constant, or if
it is for a type but implements no path. -/
def implementationItem : Reader Bool := do
  let visible ← visibility
  discard (word? "default")
  discard (word? "unsafe")
  word "impl"
  if ← sees parametersNext then generics read
  let isConstant ← sees fun tokens => wordNext "const" tokens ||
    (operatorNext "?" tokens && wordNext "const" (skip tokens))
  if isConstant then
    discard (operator? "?")
    word "const"
  let shape ← implemented read
  let isFor ← word? "for"
  if isFor then discard (read (.type true))
  conditions read
  members read (implementationMember read)
  return visible || isConstant || (isFor && !shape.isPath)

/-- Whether a static variable of a foreign block comes next. -/
def foreignStaticNext (tokens : List Token) : Bool :=
  wordNext "static" tokens ||
    (oneOfWordsNext ["unsafe", "safe"] tokens && wordNext "static" (skip tokens))

def foreignMember : Reader Unit :=
  standing do
    outerAttributes read
    let visible ← sees (wordNext "pub")
    let some tokens ← ahead visibility | failure
    if signatureNext true tokens then
      discard visibility
      let about ← signature read true
      let hasBody ← sees (groupNext .brace)
      if hasBody then attributedBlock read else operator ";"
      return ((), about.isSafe || hasBody)
    else if foreignStaticNext tokens then
      discard visibility
      let marked ← sees (oneOfWordsNext ["unsafe", "safe"])
      if marked then anyWord
      word "static"
      discard (word? "mut")
      name
      operator ":"
      discard (read (.type true))
      let hasValue ← operator? "="
      if hasValue then discard (read (.expression true))
      operator ";"
      return ((), marked || hasValue)
    else if wordNext "type" tokens then
      let about ← namedType read false .both
      return ((), about.bounded || about.defined)
    else if !visible && callPathNext tokens then
      callMember
      return ((), false)
    else failure

def foreignItem : Reader Unit := do
  discard (word? "unsafe")
  convention
  members read (foreignMember read)

end Grammar
end Source
end Assurance
