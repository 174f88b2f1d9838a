import Assurance.Integer.Decimal
import Assurance.Json.Scan
import Assurance.SafeInt.Basic

namespace Assurance

/-!
# Safe integers as JSON

A valid value is written as its numeral and a poisoned one as `null`.  Reading
reverses this: `null` gives the poisoned value, an integer in range a valid one,
and everything else is an error, never a poisoned value.

Kinds of up to 64 bits read any number and refuse one that is fractional or out
of range; the 128-bit kinds read digits only, and an integer out of their range
is malformed.
-/

namespace Json

/-- The word of a number that was read, if it is an integer in range. -/
def wordOfNumber (kind : IntKind) :
    Except Failure (Number × List Char) → Except Failure (Word kind × List Char)
  | .error failure => .error failure
  | .ok (.fractional, _) => .error .mismatched
  | .ok (.integer value, rest) =>
      match Word.ofInt? kind value with
      | some word => .ok (word, rest)
      | none => .error .mismatched

/-- Reads an integer of a kind of up to 64 bits. -/
def readNarrow (kind : IntKind) (text : List Char) : Except Failure (Word kind × List Char) :=
  match skipBlanks text with
  | [] => .error .truncated
  | '-' :: rest => wordOfNumber kind (readNumber false rest)
  | first :: rest =>
      if first.isDigit then wordOfNumber kind (readNumber true (first :: rest))
      else .error (refuse (first :: rest))

/-- Reads the digits of an integer, its sign already read, and range-checks it. -/
def readSized (kind : IntKind) (negative : Bool) (text : List Char) :
    Except Failure (Word kind × List Char) :=
  match readNumeral text with
  | .error _ => .error .malformed
  | .ok (numeral, rest) =>
      let size : Int := Nat.ofDigitChars 10 numeral 0
      match Word.ofInt? kind (if negative then -size else size) with
      | some word => .ok (word, rest)
      | none => .error .malformed

/-- Reads an integer of a 128-bit kind. -/
def readWide (kind : IntKind) (text : List Char) : Except Failure (Word kind × List Char) :=
  match skipBlanks text with
  | [] => .error .truncated
  | '-' :: rest => if kind.signed then readSized kind true rest else .error .malformed
  | text => readSized kind false text

def readWord (kind : IntKind) (text : List Char) : Except Failure (Word kind × List Char) :=
  if kind.bits = 128 then readWide kind text else readNarrow kind text

/-- Reads a safe integer, which may be `null`. -/
def readSafeInt (kind : IntKind) (text : List Char) : Except Failure (SafeInt kind × List Char) :=
  match skipBlanks text with
  | 'n' :: rest => do .ok (SafeInt.failure kind, ← expect ['u', 'l', 'l'] rest)
  | text => do
      let (word, rest) ← readWord kind text
      .ok (SafeInt.ofWord word, rest)

end Json

namespace SafeInt

variable {kind : IntKind}

def toJson (value : SafeInt kind) : String :=
  match value.checked with
  | some word => word.text
  | none => "null"

/-- The value that a JSON text denotes. -/
def ofJson (kind : IntKind) (text : String) : Except Json.Failure (SafeInt kind) := do
  let (value, rest) ← Json.readSafeInt kind text.toList
  Json.finish rest
  .ok value

end SafeInt

end Assurance
