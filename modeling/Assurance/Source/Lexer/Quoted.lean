namespace Assurance
namespace Source
namespace Lexer

/-!
# Quoted literals

What may stand between the quotes of text, byte and terminated-text literals,
plain and raw, and of character and byte literals.  The scanner of a plain
literal is an automaton that looks at one character at a time; every scanner
gives what is left after the closing quote.
-/

/-- The kinds of quoted literals. -/
inductive QuoteKind where
  | text | bytes | terminated
deriving DecidableEq, Repr

def hexValue? (char : Char) : Option Nat :=
  if '0' ≤ char ∧ char ≤ '9' then some (char.toNat - '0'.toNat)
  else if 'a' ≤ char ∧ char ≤ 'f' then some (char.toNat - 'a'.toNat + 10)
  else if 'A' ≤ char ∧ char ≤ 'F' then some (char.toNat - 'A'.toNat + 10)
  else none

/-- Whether a number is that of a character. -/
def isScalar (value : Nat) : Bool :=
  value < 0xD800 || (0xDFFF < value && value < 0x110000)

/-- Whether two digits make an escape by number in a kind of literal. -/
def hexEscape (kind : QuoteKind) (high low : Char) : Bool :=
  match hexValue? high, hexValue? low with
  | some high, some low => match kind with
    | .text => high < 8
    | .bytes => true
    | .terminated => high != 0 || low != 0
  | _, _ => false

/-- Whether a backslash and one character make an escape. -/
def shortEscape (kind : QuoteKind) (char : Char) : Bool :=
  ['n', 'r', 't', '\\', '\'', '"'].contains char || (char == '0' && kind != .terminated)

/-- Whether a character may stand for itself. -/
def plainAllowed (kind : QuoteKind) (char : Char) : Bool :=
  match kind with
  | .text => true
  | .bytes => char.toNat < 128
  | .terminated => char != '\x00'

/-- Where the scanner of a plain literal stands. -/
inductive QuoteState where
  | plain
  /-- After a carriage return, which needs a line feed. -/
  | afterReturn
  | afterBackslash
  /-- Before the first digit of an escape by number. -/
  | firstDigit
  /-- Before the second digit. -/
  | secondDigit (high : Char)
  /-- Before the brace of an escape by code point. -/
  | openBrace
  /-- Among the digits of a code point. -/
  | codePoint (value digits : Nat)
  /-- Among the blanks after a line that ends in a backslash. -/
  | skipping (afterReturn : Bool)
deriving DecidableEq, Repr

/-- What one character does to the scanner. -/
inductive QuoteStep where
  /-- The literal ends. -/
  | closed
  | next (state : QuoteState)
deriving DecidableEq, Repr

/-- A character that is not part of an escape. -/
def plainStep (kind : QuoteKind) (char : Char) : Option QuoteStep :=
  if char = '"' then some .closed
  else if char = '\r' then some (.next .afterReturn)
  else if char = '\\' then some (.next .afterBackslash)
  else if plainAllowed kind char then some (.next .plain)
  else none

/-- One character; none if the literal is malformed. -/
def quoteStep (kind : QuoteKind) (state : QuoteState) (char : Char) : Option QuoteStep :=
  match state with
  | .plain => plainStep kind char
  | .afterReturn => if char = '\n' then some (.next .plain) else none
  | .afterBackslash =>
      if char = 'x' then some (.next .firstDigit)
      else if char = 'u' ∧ kind ≠ .bytes then some (.next .openBrace)
      else if shortEscape kind char then some (.next .plain)
      else if char = '\n' ∨ char = '\r' then some (.next (.skipping (char == '\r')))
      else none
  | .firstDigit => some (.next (.secondDigit char))
  | .secondDigit high => if hexEscape kind high char then some (.next .plain) else none
  | .openBrace => if char = '\x7b' then some (.next (.codePoint 0 0)) else none
  | .codePoint value digits =>
      match hexValue? char with
      | some digit =>
          if digits = 6 then none else some (.next (.codePoint (value * 16 + digit) (digits + 1)))
      | none =>
          if digits = 0 then none
          else if char = '_' then some (.next (.codePoint value digits))
          else if char = '\x7d' ∧ isScalar value ∧ ¬ (kind = .terminated ∧ value = 0) then
            some (.next .plain)
          else none
  | .skipping afterReturn =>
      if afterReturn then if char = '\n' then some (.next (.skipping false)) else none
      else if char = ' ' ∨ char = '\t' ∨ char = '\n' ∨ char = '\r' then
        some (.next (.skipping (char == '\r')))
      else plainStep kind char

/-- What follows the closing quote of a plain literal. -/
def afterQuoted (kind : QuoteKind) : QuoteState → List Char → Option (List Char)
  | _, [] => none
  | state, char :: chars =>
      match quoteStep kind state char with
      | none => none
      | some .closed => some chars
      | some (.next next) => afterQuoted kind next chars

/-- What follows the closing quote of a raw literal with some hash marks. -/
def afterRaw (kind : QuoteKind) (hashes : List Char) : List Char → Option (List Char)
  | [] => none
  | '\r' :: '\n' :: chars => afterRaw kind hashes chars
  | '\r' :: _ => none
  | char :: chars =>
      if char = '"' && hashes.isPrefixOf chars then some (chars.drop hashes.length)
      else if plainAllowed kind char then afterRaw kind hashes chars
      else none

/-- What follows a raw literal whose marks come next; at most 255 of them may. -/
def afterRawMarks (kind : QuoteKind) (chars : List Char) : Option (List Char) :=
  let hashes := chars.takeWhile (· == '#')
  match chars.drop hashes.length with
  | '"' :: inner => if hashes.length ≤ 255 then afterRaw kind hashes inner else none
  | _ => none

/-- What follows the escape in a character literal, behind its backslash. -/
def afterCharEscape (kind : QuoteKind) : List Char → Option (List Char)
  | 'x' :: high :: low :: chars => if hexEscape kind high low then some chars else none
  | 'u' :: '\x7b' :: chars =>
      if kind = .bytes then none else codePoint 0 0 chars
  | char :: chars => if shortEscape kind char then some chars else none
  | [] => none
where
  codePoint (value digits : Nat) : List Char → Option (List Char)
    | [] => none
    | char :: chars =>
        match hexValue? char with
        | some digit =>
            if digits = 6 then none else codePoint (value * 16 + digit) (digits + 1) chars
        | none =>
            if digits = 0 then none
            else if char = '_' then codePoint value digits chars
            else if char = '\x7d' ∧ isScalar value then some chars
            else none

/-- What follows a character literal whose tick has been passed. -/
def afterChar (kind : QuoteKind) (chars : List Char) : Option (List Char) := do
  let rest ← match chars with
    | '\\' :: escape => afterCharEscape kind escape
    | char :: rest => if plainAllowed kind char then some rest else none
    | [] => none
  match rest with
  | '\'' :: rest => some rest
  | _ => none

end Lexer
end Source
end Assurance
