import Assurance.Source.Lexer.Number

namespace Assurance
namespace Source
namespace Literal

/-!
# Kinds of literals

What a literal denotes shows in how it is written.  A number is an integer if it
has neither a point nor an exponent; digits after an `e` that is not followed by
a further suffix make one.
-/

/-- Whether a text looks like an identifier. -/
def isWord (chars : List Char) : Bool :=
  match chars with
  | [] => false
  | char :: chars => Text.startsIdentifier char && chars.all Text.continuesIdentifier

/-- Whether what follows an `e` makes it the start of an exponent. -/
def exponentFollows (valued : Bool) : List Char → Bool
  | [] => valued
  | char :: chars =>
      if char = '_' then exponentFollows valued chars
      else if char = '-' ∨ char = '+' then true
      else if Lexer.isDigit char then exponentFollows true chars
      else valued && isWord (char :: chars)

/-- The value and the suffix of an integer whose base mark has been passed. -/
def readDigits (base value : Nat) (found : Bool) : List Char → Option (Nat × List Char)
  | [] => if found then some (value, []) else none
  | char :: chars =>
      let ended := if found && isWord (char :: chars) then some (value, char :: chars) else none
      let digit? := (Lexer.digitValue? char).filter fun _ => Lexer.isDigit char || 10 < base
      if char = '_' then readDigits base value found chars
      else match digit? with
        | some digit =>
            if digit < base then readDigits base (value * base + digit) true chars else none
        | none =>
            if base = 10 ∧
                (char = '.' ∨ (Lexer.isExponentLetter char ∧ exponentFollows false chars)) then none
            else ended

/-- The value and the suffix of an integer. -/
def readInteger (chars : List Char) : Option (Nat × List Char) :=
  match chars with
  | '0' :: 'x' :: chars => readDigits 16 0 false chars
  | '0' :: 'o' :: chars => readDigits 8 0 false chars
  | '0' :: 'b' :: chars => readDigits 2 0 false chars
  | char :: chars => if Lexer.isDigit char then readDigits 10 0 false (char :: chars) else none
  | [] => none

def isInteger (text : String) : Bool := (readInteger text.toList).isSome

/-- Whether a literal is a number that is not an integer. -/
def isFraction (text : String) : Bool :=
  text.toList.head?.any Lexer.isDigit && !isInteger text

def isText (text : String) : Bool := text.startsWith "\"" || text.startsWith "r"

/-- The number of a positional field: an integer without a suffix that fits into 32 bits. -/
def fieldNumber? (text : String) : Option Nat :=
  match readInteger text.toList with
  | some (value, []) => if value < UInt32.size then some value else none
  | _ => none

end Literal
end Source
end Assurance
