import Assurance.Source.Literal
import Assurance.Source.Token

namespace Assurance
namespace Source

/-!
# Readers

A reader takes tokens from the front of a list and writes what it took in
standard form: operators joined as far as they are one, everything else apart.
A reader fails if what comes next does not have its form.  Leaving a group
before its last token is a failure too, but one that only the end of the whole
reading brings out.

Looking ahead goes by token, and a lifetime counts as one.  Groups with invisible
delimiters are seen through: their tokens are looked at and taken as if they
stood by themselves, unless such a group itself is asked for.
-/

/-- What is left to read, what has been written, and whether a group was left before its last
token. -/
structure Tape where
  rest : List Token
  written : List Token
  leftOver : Bool
deriving DecidableEq

/-- A tape of which nothing has been read. -/
def Tape.start (tokens : List Token) : Tape := ⟨tokens, [], false⟩

/-- Takes tokens and writes them, or fails. -/
abbrev Reader (α : Type) : Type := StateT Tape Option α

namespace Tokens

/-- The tokens with the first one to be seen in front: a group with invisible delimiters before it
is opened. -/
def visible (tokens : List Token) : List Token :=
  match Token.frontAll? tokens with
  | some (first, rest) => first :: rest
  | none => []

/-- The tokens after the first one; a lifetime counts as one. -/
def skip (tokens : List Token) : List Token :=
  match visible tokens with
  | .punct '\'' true :: .ident .. :: rest => rest
  | _ :: rest => rest
  | [] => []

/-- The tokens after the first two. -/
def skipTwo (tokens : List Token) : List Token := skip (skip tokens)

/-- What follows a character as a part of an operator, if it comes next.  All characters of an
operator but the last one must be joined to the next. -/
def afterChar? (char : Char) (last : Bool) (tokens : List Token) : Option (List Token) :=
  match visible tokens with
  | .punct found joint :: rest =>
      if found = char ∧ (if last then char ≠ '\'' else joint) then some rest else none
  | _ => none

/-- What follows an operator, if it comes next. -/
def afterOperator? : List Char → List Token → Option (List Token)
  | [], _ => none
  | [char], tokens => afterChar? char true tokens
  | char :: chars, tokens => (afterChar? char false tokens).bind (afterOperator? chars)

def operatorNext (text : String) (tokens : List Token) : Bool :=
  (afterOperator? text.toList tokens).isSome

def wordNext (name : String) (tokens : List Token) : Bool :=
  match visible tokens with
  | .ident false found :: _ => found == name
  | _ => false

/-- Whether one of some keywords comes next. -/
def oneOfWordsNext (names : List String) (tokens : List Token) : Bool :=
  names.any fun name => wordNext name tokens

def keywords : List String :=
  ["_", "abstract", "as", "async", "await", "become", "box", "break", "const", "continue", "crate",
   "do", "dyn", "else", "enum", "extern", "false", "final", "fn", "for", "if", "impl", "in", "let",
   "loop", "macro", "match", "mod", "move", "mut", "override", "priv", "pub", "ref", "return",
   "Self", "self", "static", "struct", "super", "trait", "true", "try", "type", "typeof", "unsafe",
   "unsized", "use", "virtual", "where", "while", "yield"]

def nameNext (tokens : List Token) : Bool :=
  match visible tokens with
  | .ident raw name :: _ => raw || !keywords.contains name
  | _ => false

/-- Whether a name or keyword comes next. -/
def anyWordNext (tokens : List Token) : Bool :=
  match visible tokens with
  | .ident .. :: _ => true
  | _ => false

def lifetimeNext (tokens : List Token) : Bool :=
  match visible tokens with
  | .punct '\'' true :: rest => anyWordNext rest
  | _ => false

/-- The tokens in which a group is looked for: one with invisible delimiters is not seen through
where it is asked for. -/
def groupsOf (delimiter : Delimiter) (tokens : List Token) : List Token :=
  if delimiter = .invisible then tokens else visible tokens

def groupNext (delimiter : Delimiter) (tokens : List Token) : Bool :=
  match groupsOf delimiter tokens with
  | .group found _ :: _ => found = delimiter
  | _ => false

/-- Whether a group of any kind with delimiters to be seen comes next. -/
def anyGroupNext (tokens : List Token) : Bool :=
  match visible tokens with
  | .group .. :: _ => true
  | _ => false

/-- Whether a literal token comes next. -/
def literalTokenNext (tokens : List Token) : Bool :=
  match visible tokens with
  | .literal _ :: _ => true
  | _ => false

/-- Whether the literal token of a number comes next. -/
def numberNext (tokens : List Token) : Bool :=
  match visible tokens with
  | .literal text :: _ => text.toList.head?.any Lexer.isDigit
  | _ => false

/-- Whether a literal comes next: a literal token, a truth value, or a negative number. -/
def literalNext (tokens : List Token) : Bool :=
  match visible tokens with
  | .literal _ :: _ => true
  | .ident false name :: _ => name == "true" || name == "false"
  | .punct '-' _ :: rest => numberNext rest
  | _ => false

def textNext (tokens : List Token) : Bool :=
  match visible tokens with
  | .literal text :: _ => Literal.isText text
  | _ => false

end Tokens

namespace Reader

/-- Whether what is left to read looks some way. -/
def sees (view : List Token → Bool) : Reader Bool := do
  return view (← get).rest

def write (tokens : List Token) : Reader Unit :=
  modify fun tape => { tape with written := tape.written ++ tokens }

def takeToken : Reader Token := fun tape =>
  match Tokens.visible tape.rest with
  | [] => none
  | token :: rest =>
      some (token, { tape with rest, written := tape.written ++ [token] })

/-- Nothing is left to read. -/
def atEnd : Reader Bool := sees List.isEmpty

def operator (text : String) : Reader Unit := fun tape =>
  match Tokens.afterOperator? text.toList tape.rest with
  | none => none
  | some rest =>
      some ((), { tape with rest, written := tape.written ++ Token.operator text })

def word (name : String) : Reader Unit := do
  if ← sees (Tokens.wordNext name) then discard takeToken else failure

def name : Reader Unit := do
  if ← sees Tokens.nameNext then discard takeToken else failure

def anyWord : Reader Unit := do
  if ← sees Tokens.anyWordNext then discard takeToken else failure

def lifetime : Reader Unit := do
  if ← sees Tokens.lifetimeNext then
    discard takeToken
    discard takeToken
  else failure

def literal : Reader Unit := do
  if ← sees Tokens.literalNext then
    if ← sees (Tokens.operatorNext "-") then operator "-"
    discard takeToken
  else failure

/-- Take an operator if it comes next, and say whether it did. -/
def operator? (text : String) : Reader Bool := do
  if ← sees (Tokens.operatorNext text) then
    operator text
    return true
  return false

/-- Take a keyword if it comes next, and say whether it did. -/
def word? (name : String) : Reader Bool := do
  if ← sees (Tokens.wordNext name) then
    word name
    return true
  return false

/-- Take a group whose tokens are read by a reader, which should take all of them. -/
def group {α : Type} (delimiter : Delimiter) (inside : Reader α) : Reader α := fun tape =>
  match Tokens.groupsOf delimiter tape.rest with
  | .group found inner :: rest =>
      if found = delimiter then
        (inside (.start inner)).map fun (value, after) =>
          (value, { rest, written := tape.written ++ [.group delimiter after.written],
                    leftOver := tape.leftOver || after.leftOver ||
                      !(Tokens.visible after.rest).isEmpty })
      else none
  | _ => none

/-- Take a group, whatever is in it. -/
def anyGroupOf (delimiter : Delimiter) : Reader Unit := do
  if ← sees (Tokens.groupNext delimiter) then discard takeToken else failure

/-- Take a group of any kind.  Here groups with invisible delimiters are not seen through. -/
def anyGroup : Reader Delimiter := fun tape =>
  match tape.rest with
  | .group .invisible _ :: _ => none
  | .group delimiter inner :: rest =>
      some (delimiter, { tape with rest, written := tape.written ++ [.group delimiter inner] })
  | _ => none

/-- Read something and give it in standard form instead of writing it. -/
def aside {α : Type} (reader : Reader α) : Reader (α × List Token) := fun tape =>
  (reader { tape with written := [] }).map fun (value, after) =>
    ((value, after.written), { after with written := tape.written })

/-- What would be left to read behind something, if it has the form. -/
def ahead {α : Type} (reader : Reader α) : Reader (Option (List Token)) := fun tape =>
  some ((reader tape).map fun (_, after) => after.rest, tape)

/-- Take an operator without writing it, if it comes next. -/
def dropOperator (text : String) : Reader Unit := discard (aside (operator? text))

/-- Read something that tells whether to write it exactly as it stands. -/
def standing {α : Type} (reader : Reader (α × Bool)) : Reader α := fun tape =>
  (reader { tape with written := [] }).map fun ((value, asItStands), after) =>
    let taken := Token.beforeAll (Token.sizeAll after.rest) 0 tape.rest
    (value, { after with
      written := tape.written ++ if asItStands then taken else after.written })

/-- Read something and write it exactly as it stands. -/
def verbatim {α : Type} (reader : Reader α) : Reader α :=
  standing do return (← reader, true)

/-- Read something if it has the form, and nothing otherwise. -/
def orNothing {α : Type} (reader : Reader α) : Reader (Option α) := fun tape =>
  match reader tape with
  | some (value, after) => some (some value, after)
  | none => some (none, tape)

/-- Repeat a reader that passes a value on for as long as it asks for more. -/
def repeatFromWithin {β : Type} : Nat → (β → Reader (β × Bool)) → β → Reader β
  | 0, _, _ => failure
  | limit + 1, round, value => do
      let (next, more) ← round value
      if more then repeatFromWithin limit round next else return next

/-- Repeat a reader that passes a value on for as long as it asks for more; every round must take a
token. -/
def repeatingFrom {β : Type} (start : β) (round : β → Reader (β × Bool)) : Reader β := do
  repeatFromWithin (Token.sizeAll (← get).rest + 1) round start

/-- Repeat a reader for as long as it asks for more. -/
def repeating (round : Reader Bool) : Reader Unit :=
  repeatingFrom () fun _ => do return ((), ← round)

/-- Items with separators between them, up to where the list stops; a separator may end it. -/
def separated (stops : List Token → Bool) (item : Reader Unit) (separator : String) :
    Reader Unit :=
  repeating do
    if ← sees stops then return false
    item
    if ← sees stops then return false
    operator separator
    return true

/-- Items with separators between them; the list stops where it says or where no separator follows
an item. -/
def joined (stops : List Token → Bool) (item : Reader Unit) (separator : String) : Reader Unit :=
  repeating do
    if ← sees stops then return false
    item
    operator? separator

/-- Items with commas between them, down to the last token. -/
def commaList (item : Reader Unit) : Reader Unit := separated List.isEmpty item ","

/-- Whether a reader takes all tokens, and what it writes. -/
def readAll? {α : Type} (reader : Reader α) (tokens : List Token) : Option (α × List Token) :=
  match reader (.start tokens) with
  | some (value, after) =>
      if (Tokens.visible after.rest).isEmpty && !after.leftOver then some (value, after.written)
      else none
  | none => none

end Reader

end Source
end Assurance
