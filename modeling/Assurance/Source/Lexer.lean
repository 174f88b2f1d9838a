import Assurance.Source.Lexer.Number
import Assurance.Source.Lexer.Quoted
import Assurance.Source.Token
import Assurance.Text.Blank
import Assurance.Text.Quoted

namespace Assurance
namespace Source

/-!
# Lexer

Splits text into tokens.  Blanks and comments leave nothing behind; a comment
that documents something becomes the attribute that does.  Text that is not a
sequence of tokens with matching delimiters has no tokens.
-/

namespace Lexer

/-- Whether a character separates tokens.  Beside the blanks these are the two direction marks. -/
def isSpace (char : Char) : Bool :=
  Text.isBlank char || char == '\u200e' || char == '\u200f'

/-- What follows a block comment, whose start is counted as the first level. -/
def afterBlockComment (depth : Nat) : List Char → Option (List Char)
  | '/' :: '*' :: chars => afterBlockComment (depth + 1) chars
  | '*' :: '/' :: chars => if depth ≤ 1 then some chars else afterBlockComment (depth - 1) chars
  | _ :: chars => afterBlockComment depth chars
  | [] => none

/-- The rest of a line, and what follows it; a carriage return before the line feed is dropped. -/
def takeLine : List Char → List Char × List Char
  | [] => ([], [])
  | '\n' :: chars => ([], '\n' :: chars)
  | '\r' :: '\n' :: chars => ([], '\n' :: chars)
  | char :: chars =>
      let (line, rest) := takeLine chars
      (char :: line, rest)

/-- Whether a text begins with another one. -/
def startsWith (start : String) (chars : List Char) : Bool := start.toList.isPrefixOf chars

/-- Whether a line comment that only comments comes next. -/
def plainLineComment (chars : List Char) : Bool :=
  startsWith "//" chars && (!startsWith "///" chars || startsWith "////" chars) &&
    !startsWith "//!" chars

/-- Whether a block comment that only comments comes next. -/
def plainBlockComment (chars : List Char) : Bool :=
  startsWith "/**/" chars ||
    (startsWith "/*" chars && (!startsWith "/**" chars || startsWith "/***" chars) &&
      !startsWith "/*!" chars)

/-- What follows one separator, if one comes next. -/
def afterSpace? (chars : List Char) : Option (List Char) :=
  if plainLineComment chars then some (takeLine chars).2
  else if plainBlockComment chars then afterBlockComment 0 chars
  else match chars with
    | char :: rest => if isSpace char then some rest else none
    | [] => none

/-- What follows all separators; each of them is at least one character. -/
def skipSpaceWithin : Nat → List Char → List Char
  | 0, chars => chars
  | limit + 1, chars => match afterSpace? chars with
    | some rest => skipSpaceWithin limit rest
    | none => chars

/-- What follows all separators. -/
def skipSpace (chars : List Char) : List Char := skipSpaceWithin chars.length chars

/-- The text of a comment that documents something, whether it documents what surrounds it, and what
follows it. -/
def docComment? (chars : List Char) : Option (List Char × Bool × List Char) :=
  let block (inner : Bool) : Option (List Char × Bool × List Char) := do
    let rest ← afterBlockComment 0 chars
    let whole := chars.take (chars.length - rest.length)
    some ((whole.drop 3).take (whole.length - 5), inner, rest)
  if startsWith "//!" chars then
    let (line, rest) := takeLine (chars.drop 3)
    some (line, true, rest)
  else if startsWith "/*!" chars then block true
  else if startsWith "///" chars then
    if startsWith "////" chars then none
    else
      let (line, rest) := takeLine (chars.drop 3)
      some (line, false, rest)
  else if startsWith "/**" chars && !startsWith "/***" chars then block false
  else none

/-- Whether every carriage return is followed by a line feed. -/
def returnsPaired : List Char → Bool
  | [] => true
  | '\r' :: '\n' :: chars => returnsPaired chars
  | '\r' :: _ => false
  | _ :: chars => returnsPaired chars

/-- A text as it is written in a literal. -/
def escapeDoc : List Char → List Char
  | [] => []
  | char :: chars =>
      let written :=
        if char = '\x00' && chars.head?.any (fun next => '0' ≤ next && next ≤ '7') then
          "\\x00".toList
        else Text.escape char
      written ++ escapeDoc chars

/-- The attribute that documents. -/
def docAttribute (text : List Char) (inner : Bool) : List Token :=
  let literal := String.ofList (['"'] ++ escapeDoc text ++ ['"'])
  [Token.mark '#'] ++ (if inner then [Token.mark '!'] else []) ++
    [.group .bracket [Token.word "doc", Token.mark '=', .literal literal]]

def afterLiteral (chars : List Char) : Option (List Char) :=
  let quoted (rest : Option (List Char)) : Option (List Char) := rest.map afterSuffix
  match chars with
  | '"' :: rest => quoted (afterQuoted .text .plain rest)
  | 'r' :: rest => quoted (afterRawMarks .text rest)
  | 'b' :: '"' :: rest => quoted (afterQuoted .bytes .plain rest)
  | 'b' :: 'r' :: rest => quoted (afterRawMarks .bytes rest)
  | 'b' :: '\'' :: rest => quoted (afterChar .bytes rest)
  | 'c' :: '"' :: rest => quoted (afterQuoted .terminated .plain rest)
  | 'c' :: 'r' :: rest => quoted (afterRawMarks .terminated rest)
  | '\'' :: rest => quoted (afterChar .text rest)
  | _ => afterNumber chars

def operatorChars : List Char := "~!@#$%^&*-=+|;:,<.>/?'".toList

/-- Whether a character of an operator comes next; the start of a comment is none. -/
def operatorNext (chars : List Char) : Bool :=
  !startsWith "//" chars && !startsWith "/*" chars && chars.head?.any operatorChars.contains

/-- The names that cannot be raw. -/
def neverRaw : List String := ["_", "super", "self", "Self", "crate"]

/-- An identifier, raw or not, and what follows it. -/
def identifier? (chars : List Char) : Option (Token × List Char) := do
  let raw := startsWith "r#" chars
  let chars := if raw then chars.drop 2 else chars
  let rest ← afterWord? chars
  let name := String.ofList (chars.take (chars.length - rest.length))
  if raw && neverRaw.contains name then none else some (.ident raw name, rest)

/-- What begins a literal and never an identifier. -/
def literalStarts : List String :=
  ["r\"", "r#\"", "r##", "b\"", "b'", "br\"", "br#", "c\"", "cr\"", "cr#"]

/-- A punctuation token and what follows it.  A tick must come before an identifier that is not
itself followed by a tick. -/
def punctuation? (chars : List Char) : Option (Token × List Char) :=
  if operatorNext chars then
    match chars with
    | '\'' :: rest => do
        let (_, after) ← identifier? rest
        if after.head? == some '\'' || (after.head? == some '#' && !startsWith "r#" rest) then none
        else some (.punct '\'' true, rest)
    | char :: rest => some (.punct char (operatorNext rest), rest)
    | [] => none
  else none

/-- The text that stands for a malformed literal. -/
def errorText : String := "(/*ERROR*/)"

/-- One token that is not a group, and what follows it. -/
def leaf? (chars : List Char) : Option (Token × List Char) :=
  match afterLiteral chars with
  | some rest => some (.literal (String.ofList (chars.take (chars.length - rest.length))), rest)
  | none => match punctuation? chars with
    | some found => some found
    | none =>
        if literalStarts.any (startsWith · chars) then none
        else match identifier? chars with
          | some found => some found
          | none =>
              if startsWith errorText chars then
                some (.literal errorText, chars.drop errorText.length)
              else none

/-! ## Groups -/

/-- The delimiter that a character opens. -/
def opened? : Char → Option Delimiter
  | '(' => some .parenthesis
  | '[' => some .bracket
  | '\x7b' => some .brace
  | _ => none

/-- The delimiter that a character closes. -/
def closed? : Char → Option Delimiter
  | ')' => some .parenthesis
  | ']' => some .bracket
  | '\x7d' => some .brace
  | _ => none

/-- The groups that are still open, the innermost first, each with the tokens before it. -/
abbrev OpenGroups : Type := List (Delimiter × List Token)

/-- The tokens of a text, given those already found since the last open delimiter.  Every round
takes at least one character. -/
def tokensWithin : Nat → OpenGroups → List Token → List Char → Option (List Token)
  | 0, _, _, _ => none
  | limit + 1, groups, found, chars =>
      let chars := skipSpace chars
      let continueWithLeaf : Option (List Token) := do
        let (token, rest) ← leaf? chars
        tokensWithin limit groups (found ++ [token]) rest
      match (docComment? chars).filter fun (text, _, _) => returnsPaired text with
      | some (text, inner, rest) =>
          tokensWithin limit groups (found ++ docAttribute text inner) rest
      | none =>
          match chars with
          | [] => if groups.isEmpty then some found else none
          | char :: rest =>
              match if startsWith errorText chars then none else opened? char with
              | some delimiter => tokensWithin limit ((delimiter, found) :: groups) [] rest
              | none => match closed? char with
                | some delimiter => match groups with
                  | (opened, before) :: groups =>
                      if opened = delimiter then
                        tokensWithin limit groups (before ++ [.group delimiter found]) rest
                      else none
                  | [] => none
                | none => continueWithLeaf

end Lexer

/-- The tokens of a text, if it is a sequence of tokens.  A byte order mark at its start is
dropped. -/
def tokens? (text : String) : Option (List Token) :=
  let chars := match text.toList with
    | '\ufeff' :: chars => chars
    | chars => chars
  Lexer.tokensWithin (chars.length + 1) [] [] chars

end Source
end Assurance
