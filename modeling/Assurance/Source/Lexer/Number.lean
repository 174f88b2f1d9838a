import Assurance.Text.Identifier

namespace Assurance
namespace Source
namespace Lexer

/-!
# Number literals

A number is an integer in one of four bases or a decimal fraction, with an
exponent or not, and an optional suffix that looks like an identifier.  Every
scanner gives what is left after the literal.
-/

/-- What follows an identifier that is not raw. -/
def afterWord? (chars : List Char) : Option (List Char) :=
  match chars with
  | [] => none
  | char :: chars =>
      if Text.startsIdentifier char then some (chars.dropWhile Text.continuesIdentifier) else none

/-- What follows an optional suffix. -/
def afterSuffix (chars : List Char) : List Char := (afterWord? chars).getD chars

/-- Whether a character is a decimal digit. -/
def isDigit (char : Char) : Bool := '0' ≤ char && char ≤ '9'

/-- Whether a character is a decimal digit or the underscore that separates digits. -/
def isDigitOrGap (char : Char) : Bool := isDigit char || char == '_'

/-- The value of a digit up to the sixteenth. -/
def digitValue? (char : Char) : Option Nat :=
  if isDigit char then some (char.toNat - '0'.toNat)
  else if 'a' ≤ char ∧ char ≤ 'f' then some (char.toNat - 'a'.toNat + 10)
  else if 'A' ≤ char ∧ char ≤ 'F' then some (char.toNat - 'A'.toNat + 10)
  else none

/-- What follows the digits of an integer.  A decimal digit beyond the base is wrong, a letter
beyond it ends the number; a decimal integer does not begin with a gap. -/
def afterDigits (base : Nat) (empty : Bool) : List Char → Option (List Char)
  | [] => if empty then none else some []
  | char :: chars =>
      if char = '_' then
        if empty && base == 10 then none else afterDigits base empty chars
      else
        let ended := if empty then none else some (char :: chars)
        match digitValue? char with
        | none => ended
        | some value =>
            if value < base then afterDigits base false chars
            else if isDigit char then none
            else ended

/-- What follows the base mark and the digits of an integer. -/
def afterBaseDigits : List Char → Option (List Char)
  | '0' :: 'x' :: chars => afterDigits 16 true chars
  | '0' :: 'o' :: chars => afterDigits 8 true chars
  | '0' :: 'b' :: chars => afterDigits 2 true chars
  | chars => afterDigits 10 true chars

/-- What follows an exponent whose letter has been passed; none if it has no value. -/
def afterExponent (signed valued : Bool) : List Char → Option (List Char)
  | [] => if valued then some [] else none
  | char :: chars =>
      if isDigit char then afterExponent signed true chars
      else if char = '_' then afterExponent signed valued chars
      else if (char = '+' ∨ char = '-') ∧ ¬ valued then
        if signed then none else afterExponent true valued chars
      else if valued then some (char :: chars) else none

/-- Whether a letter introduces an exponent. -/
def isExponentLetter (char : Char) : Bool := char == 'e' || char == 'E'

/-- What follows the digits of a fraction, which need a point or an exponent. -/
def afterFraction (chars : List Char) : Option (List Char) :=
  match chars with
  | [] => none
  | first :: chars =>
      if !isDigit first then none else
      match chars.dropWhile isDigitOrGap with
      | '.' :: fraction =>
          if (fraction.head?.any fun char => char == '.' || Text.startsIdentifier char) then none
          else match fraction.dropWhile isDigitOrGap with
          | char :: exponent =>
              if isExponentLetter char then
                some ((afterExponent false false exponent).getD (char :: exponent))
              else some (char :: exponent)
          | [] => some []
      | char :: exponent =>
          if isExponentLetter char then afterExponent false false exponent else none
      | [] => none

/-- What follows the suffix of a number; the number must end there. -/
def afterNumberSuffix (chars : List Char) : Option (List Char) :=
  let rest := afterSuffix chars
  if rest.head?.any Text.continuesIdentifier then none else some rest

def afterNumber (chars : List Char) : Option (List Char) :=
  match (afterFraction chars).bind afterNumberSuffix with
  | some rest => some rest
  | none => (afterBaseDigits chars).bind afterNumberSuffix

end Lexer
end Source
end Assurance
