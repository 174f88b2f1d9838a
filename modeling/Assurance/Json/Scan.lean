namespace Assurance

namespace Json

/-!
# Scanning JSON text

A scanner takes the characters that are left and gives what it read together
with the rest, or says why it failed: the text ended too early, it is not JSON
at that place, or it is JSON of another shape than the one asked for.

Numbers are read with a significand below 2⁶⁴.  A number is an integer only if
it has no fraction and no exponent, fits in 64 bits and is not a negative zero;
every other number is fractional, and one too large for binary64 is an error.
-/

/-- Why a text could not be read. -/
inductive Failure where
  /-- Well-formed text of another shape, or an integer outside its range. -/
  | mismatched
  /-- Text that is not JSON. -/
  | malformed
  /-- Text that ends too early. -/
  | truncated
deriving DecidableEq, Repr

/-- The blanks between the tokens of JSON. -/
def isBlank (char : Char) : Bool :=
  char == ' ' || char == '\n' || char == '\t' || char == '\r'

/-- The text after its leading blanks. -/
def skipBlanks (text : List Char) : List Char :=
  text.dropWhile isBlank

def expect : List Char → List Char → Except Failure (List Char)
  | [], text => .ok text
  | _ :: _, [] => .error .truncated
  | wanted :: more, found :: text => if found == wanted then expect more text else .error .malformed

/-- Only blanks are left. -/
def finish (text : List Char) : Except Failure Unit :=
  if (skipBlanks text).isEmpty then .ok () else .error .malformed

/-- What a number turned out to be. -/
inductive Number where
  | integer (value : Int)
  | fractional
deriving DecidableEq, Repr

/-- The nearest integer with 53 significant binary digits, ties to the even one. -/
def roundSignificand (value : Nat) : Nat :=
  let dropped := value.log2 - 52
  let unit := Nat.pow 2 dropped
  let quotient := value / unit
  let remainder := value % unit
  let half := unit / 2
  let up := dropped != 0 && (half < remainder || (half == remainder && quotient % 2 == 1))
  (if up then quotient + 1 else quotient) * unit

/-- Whether a significand times a power of ten is beyond the finite binary64 numbers. -/
def isInfinite (significand : Nat) (exponent : Int) : Bool :=
  if exponent < 0 || significand == 0 then false
  else if exponent > 308 then true
  else decide (Nat.pow 2 1024 - Nat.pow 2 970 ≤
    roundSignificand significand * roundSignificand (Nat.pow 10 exponent.toNat))

/-- A fractional number, unless it is infinite. -/
def fractionalNumber (significand : Nat) (exponent : Int) (text : List Char) :
    Except Failure (Number × List Char) :=
  if isInfinite significand exponent then .error .malformed else .ok (.fractional, text)

/-- Appends digits to a significand while it stays below 2⁶⁴; gives how many were taken. -/
def extendSignificand : Nat → List Char → Nat × Nat
  | significand, [] => (significand, 0)
  | significand, digit :: digits =>
      let extended := significand * 10 + (digit.toNat - '0'.toNat)
      if extended < UInt64.size then
        let (last, taken) := extendSignificand extended digits
        (last, taken + 1)
      else (significand, 0)

/-- Reads the digits of an exponent, its sign already read. -/
def readExponentDigits (significand : Nat) (exponent : Int) (positive : Bool) (text : List Char) :
    Except Failure (Number × List Char) :=
  let digits := text.takeWhile Char.isDigit
  let rest := text.dropWhile Char.isDigit
  if digits.isEmpty then .error (if text.isEmpty then .truncated else .malformed)
  else
    let size := Nat.ofDigitChars 10 digits 0
    if 2147483648 ≤ size then
      if significand != 0 && positive then .error .malformed else .ok (.fractional, rest)
    else fractionalNumber significand (if positive then exponent + size else exponent - size) rest

def readExponent (significand : Nat) (exponent : Int) :
    List Char → Except Failure (Number × List Char)
  | '+' :: text => readExponentDigits significand exponent true text
  | '-' :: text => readExponentDigits significand exponent false text
  | text => readExponentDigits significand exponent true text

/-- Whether a character marks an exponent. -/
def isExponentMark (char : Char) : Bool := char == 'e' || char == 'E'

def readFraction (significand : Nat) (exponent : Int) (text : List Char) :
    Except Failure (Number × List Char) :=
  let digits := text.takeWhile Char.isDigit
  let rest := text.dropWhile Char.isDigit
  if digits.isEmpty then .error (if text.isEmpty then .truncated else .malformed)
  else
    let (last, taken) := extendSignificand significand digits
    match rest with
    | mark :: text =>
        if isExponentMark mark then readExponent last (exponent - taken) text
        else fractionalNumber last (exponent - taken) rest
    | [] => fractionalNumber last (exponent - taken) rest

/-- The integer of a sign and a significand; a negative one must fit in 64 bits and not be zero. -/
def signedInteger (positive : Bool) (significand : Nat) : Number :=
  if positive then .integer significand
  else if 0 < significand ∧ significand ≤ 9223372036854775808 then .integer (-significand)
  else .fractional

/-- Reads what may follow the digits before the point. -/
def readNumberTail (positive : Bool) (significand extra : Nat) (text : List Char) :
    Except Failure (Number × List Char) :=
  let plain : Except Failure (Number × List Char) :=
    if extra == 0 then .ok (signedInteger positive significand, text)
    else fractionalNumber significand extra text
  match text with
  | '.' :: rest => readFraction significand extra rest
  | mark :: rest => if isExponentMark mark then readExponent significand extra rest else plain
  | [] => plain

/-- Reads an unsigned numeral without a leading zero: its digits, and the text after them. -/
def readNumeral (text : List Char) : Except Failure (List Char × List Char) :=
  match text with
  | [] => .error .truncated
  | '0' :: rest =>
      if (rest.head?.map Char.isDigit).getD false then .error .malformed else .ok (['0'], rest)
  | first :: _ =>
      if first.isDigit then .ok (text.takeWhile Char.isDigit, text.dropWhile Char.isDigit)
      else .error .malformed

def readNumber (positive : Bool) (text : List Char) : Except Failure (Number × List Char) := do
  let (numeral, rest) ← readNumeral text
  let (significand, taken) := extendSignificand 0 numeral
  readNumberTail positive significand (numeral.length - taken) rest

def hexDigit? (char : Char) : Option Nat :=
  if char.isDigit then some (char.toNat - '0'.toNat)
  else if 'a' ≤ char ∧ char ≤ 'f' then some (char.toNat - 'a'.toNat + 10)
  else if 'A' ≤ char ∧ char ≤ 'F' then some (char.toNat - 'A'.toNat + 10)
  else none

/-- The number of bytes of a text in UTF-8. -/
def byteLength (text : List Char) : Nat :=
  text.foldl (fun total char => total + char.utf8Size) 0

/-- Reads four hexadecimal digits; the text has ended if fewer than four bytes are left. -/
def readHex (text : List Char) : Except Failure (Nat × List Char) :=
  if byteLength text < 4 then .error .truncated
  else match (text.take 4).mapM hexDigit? with
    | some [first, second, third, fourth] =>
        .ok (((first * 16 + second) * 16 + third) * 16 + fourth, text.drop 4)
    | _ => .error .malformed

def shortEscape? : Char → Option Char
  | '"' => some '"' | '\\' => some '\\' | '/' => some '/'
  | 'b' => some '\x08' | 'f' => some '\x0c' | 'n' => some '\n' | 'r' => some '\r' | 't' => some '\t'
  | _ => none

/-- Reads the rest of an escape by code unit; a leading surrogate needs its trailing one. -/
def readUnitEscape (text : List Char) : Except Failure (Char × List Char) := do
  let (unit, rest) ← readHex text
  if 0xDC00 ≤ unit ∧ unit ≤ 0xDFFF then .error .malformed
  else if unit < 0xD800 ∨ 0xDBFF < unit then .ok (Char.ofNat unit, rest)
  else
    let rest ← expect ['\\', 'u'] rest
    let (trailing, rest) ← readHex rest
    if trailing < 0xDC00 ∨ 0xDFFF < trailing then .error .malformed
    else .ok (Char.ofNat ((unit - 0xD800) * 0x400 + (trailing - 0xDC00) + 0x10000), rest)

/-- Reads an escape after its backslash. -/
def readEscape : List Char → Except Failure (Char × List Char)
  | [] => .error .truncated
  | 'u' :: rest => readUnitEscape rest
  | mark :: rest =>
      match shortEscape? mark with
      | some char => .ok (char, rest)
      | none => .error .malformed

/-- Passes over an escape after its backslash, without looking at surrogates. -/
def skipEscape : List Char → Except Failure (List Char)
  | [] => .error .truncated
  | 'u' :: rest => (readHex rest).map Prod.snd
  | mark :: rest => if (shortEscape? mark).isSome then .ok rest else .error .malformed

/-- Reads a string after its opening quote, at most `limit` characters of it. -/
def readStringWithin : (limit : Nat) → List Char → Except Failure (List Char × List Char)
  | 0, _ => .error .truncated
  | _ + 1, [] => .error .truncated
  | _ + 1, '"' :: rest => .ok ([], rest)
  | limit + 1, '\\' :: rest => do
      let (char, rest) ← readEscape rest
      let (chars, rest) ← readStringWithin limit rest
      .ok (char :: chars, rest)
  | limit + 1, char :: rest =>
      if char.toNat < 0x20 then .error .malformed
      else do
        let (chars, rest) ← readStringWithin limit rest
        .ok (char :: chars, rest)

/-- Reads a string after its opening quote. -/
def readString (text : List Char) : Except Failure (List Char × List Char) :=
  readStringWithin (text.length + 1) text

/-- Passes over a string after its opening quote, at most `limit` characters of it. -/
def skipStringWithin : (limit : Nat) → List Char → Except Failure (List Char)
  | 0, _ => .error .truncated
  | _ + 1, [] => .error .truncated
  | _ + 1, '"' :: rest => .ok rest
  | limit + 1, '\\' :: rest => do skipStringWithin limit (← skipEscape rest)
  | limit + 1, char :: rest =>
      if char.toNat < 0x20 then .error .malformed else skipStringWithin limit rest

/-- Passes over a string after its opening quote. -/
def skipString (text : List Char) : Except Failure (List Char) :=
  skipStringWithin (text.length + 1) text

/-! ## Values that are not looked at -/

/-- Passes over digits, of which there must be one. -/
def skipDigits (text : List Char) : Except Failure (List Char) :=
  if (text.takeWhile Char.isDigit).isEmpty then .error .malformed
  else .ok (text.dropWhile Char.isDigit)

/-- Passes over an exponent, if there is one. -/
def skipExponent : List Char → Except Failure (List Char)
  | mark :: rest =>
      if isExponentMark mark then
        match rest with
        | '+' :: digits => skipDigits digits
        | '-' :: digits => skipDigits digits
        | digits => skipDigits digits
      else .ok (mark :: rest)
  | [] => .ok []

/-- Passes over a number after its sign.  A number that ends too early is malformed here. -/
def skipNumber (text : List Char) : Except Failure (List Char) :=
  match readNumeral text with
  | .error _ => .error .malformed
  | .ok (_, '.' :: rest) => do skipExponent (← skipDigits rest)
  | .ok (_, rest) => skipExponent rest

/-- An array or object that is still open. -/
inductive Open where
  | array | object
deriving DecidableEq, Repr

/-- The bracket that closes an open array or object. -/
def Open.close : Open → Char
  | array => ']'
  | object => '\x7d'

/-- Passes over the key of a member and its colon. -/
def skipKey (text : List Char) : Except Failure (List Char) :=
  match skipBlanks text with
  | [] => .error .truncated
  | '"' :: rest => do
      match skipBlanks (← skipString rest) with
      | [] => .error .truncated
      | ':' :: rest => .ok rest
      | _ => .error .malformed
  | _ => .error .malformed

/-- Passes over a value that opens nothing; `none` says that it opens an array or object. -/
def skipScalar : List Char → Except Failure (Option (List Char))
  | [] => .error .truncated
  | 'n' :: rest => (expect ['u', 'l', 'l'] rest).map some
  | 't' :: rest => (expect ['r', 'u', 'e'] rest).map some
  | 'f' :: rest => (expect ['a', 'l', 's', 'e'] rest).map some
  | '-' :: rest => (skipNumber rest).map some
  | '"' :: rest => (skipString rest).map some
  | '[' :: _ => .ok none
  | '\x7b' :: _ => .ok none
  | first :: rest =>
      if first.isDigit then (skipNumber (first :: rest)).map some else .error .malformed

mutual

/-- Passes over a value inside the open arrays and objects, in at most `limit` steps. -/
def skipValueWithin : (limit : Nat) → List Open → List Char → Except Failure (List Char)
  | 0, _, _ => .error .truncated
  | limit + 1, outer, text => do
      let text := skipBlanks text
      match ← skipScalar text with
      | some rest => closeWithin limit outer true rest
      | none =>
          let inner := if text.head? == some '[' then Open.array else Open.object
          closeWithin limit (inner :: outer) false (text.drop 1)

/-- Passes over what follows a value (`separated`) or an opening bracket: brackets that close,
then a comma and the next value, until nothing is open. -/
def closeWithin : (limit : Nat) → List Open → (separated : Bool) → List Char →
    Except Failure (List Char)
  | 0, _, _, _ => .error .truncated
  | _ + 1, [], _, text => .ok text
  | limit + 1, inner :: outer, separated, text =>
      match skipBlanks text with
      | [] => .error .truncated
      | char :: rest =>
          if char == inner.close then closeWithin limit outer true rest
          else if separated && char != ',' then .error .malformed
          else do
            let next := if separated then rest else char :: rest
            match inner with
            | .array => skipValueWithin limit (inner :: outer) next
            | .object => skipValueWithin limit (inner :: outer) (← skipKey next)

end

/-- Passes over one value of any shape. -/
def skipValue (text : List Char) : Except Failure (List Char) :=
  skipValueWithin (2 * text.length + 2) [] text

/-- The failure when a value of another shape stands where one was asked for. -/
def refuse : List Char → Failure
  | [] => .truncated
  | 'n' :: rest => afterwards (expect ['u', 'l', 'l'] rest)
  | 't' :: rest => afterwards (expect ['r', 'u', 'e'] rest)
  | 'f' :: rest => afterwards (expect ['a', 'l', 's', 'e'] rest)
  | '-' :: rest => afterwards (readNumber false rest)
  | '"' :: rest => afterwards (readString rest)
  | '[' :: _ => .mismatched
  | '\x7b' :: _ => .mismatched
  | first :: rest =>
      if first.isDigit then afterwards (readNumber true (first :: rest)) else .malformed
where
  /-- A value that can be read has the wrong shape; another one fails as it fails. -/
  afterwards {α : Type} : Except Failure α → Failure
    | .ok _ => .mismatched
    | .error failure => failure

end Json

end Assurance
