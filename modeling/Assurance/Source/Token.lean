namespace Assurance
namespace Source

/-!
# Tokens

Source text is a list of tokens.  A group holds the tokens between a pair of
delimiters, so delimiters always match.  The delimiters of a group can be
invisible: such a group keeps together what the expansion of a macro has put in
one place, and no text has one.  An operator of several characters is that many
punctuation tokens, each joined to the next one; a lifetime is a tick joined to
an identifier.
-/

/-- The kinds of delimiters. -/
inductive Delimiter where
  | parenthesis | bracket | brace | invisible
deriving DecidableEq, Repr

/-- A token. -/
inductive Token where
  /-- An identifier or keyword; a raw identifier is never a keyword. -/
  | ident (raw : Bool) (name : String)
  /-- A punctuation character, and whether it is joined to the next one. -/
  | punct (char : Char) (joint : Bool)
  /-- A literal as it is written. -/
  | literal (text : String)
  | group (delimiter : Delimiter) (inner : List Token)
deriving Repr, Inhabited

namespace Token

mutual

def decideEq : (left right : Token) → Decidable (left = right)
  | .ident raw name, .ident raw' name' =>
      if same : raw = raw' ∧ name = name' then isTrue (by rw [same.1, same.2])
      else isFalse fun equal => same (by injection equal; exact ⟨‹_›, ‹_›⟩)
  | .punct char joint, .punct char' joint' =>
      if same : char = char' ∧ joint = joint' then isTrue (by rw [same.1, same.2])
      else isFalse fun equal => same (by injection equal; exact ⟨‹_›, ‹_›⟩)
  | .literal text, .literal text' =>
      if same : text = text' then isTrue (by rw [same])
      else isFalse fun equal => same (by injection equal)
  | .group delimiter inner, .group delimiter' inner' =>
      match decideEqAll inner inner' with
      | isTrue sameInner =>
          if same : delimiter = delimiter' then isTrue (by rw [same, sameInner])
          else isFalse fun equal => same (by injection equal)
      | isFalse different => isFalse fun equal => different (by injection equal)
  | .ident .., .punct .. => isFalse nofun
  | .ident .., .literal _ => isFalse nofun
  | .ident .., .group .. => isFalse nofun
  | .punct .., .ident .. => isFalse nofun
  | .punct .., .literal _ => isFalse nofun
  | .punct .., .group .. => isFalse nofun
  | .literal _, .ident .. => isFalse nofun
  | .literal _, .punct .. => isFalse nofun
  | .literal _, .group .. => isFalse nofun
  | .group .., .ident .. => isFalse nofun
  | .group .., .punct .. => isFalse nofun
  | .group .., .literal _ => isFalse nofun

/-- Equality of lists of tokens is decidable. -/
def decideEqAll : (left right : List Token) → Decidable (left = right)
  | [], [] => isTrue rfl
  | [], _ :: _ => isFalse nofun
  | _ :: _, [] => isFalse nofun
  | token :: tokens, token' :: tokens' =>
      match decideEq token token' with
      | isFalse different => isFalse fun equal => different (by injection equal)
      | isTrue same =>
          match decideEqAll tokens tokens' with
          | isFalse different => isFalse fun equal => different (by injection equal)
          | isTrue sameTail => isTrue (by rw [same, sameTail])

end

instance : DecidableEq Token := decideEq

/-- An identifier or keyword that is not raw. -/
def word (name : String) : Token := .ident false name

/-- A punctuation character that is not joined to the next token. -/
def mark (char : Char) : Token := .punct char false

/-- The characters of an operator, each joined to the next one. -/
def operatorOf : List Char → List Token
  | [] => []
  | [char] => [mark char]
  | char :: chars => .punct char true :: operatorOf chars

def operator (text : String) : List Token := operatorOf text.toList

mutual

/-- The number of tokens in a token, those inside a group included. -/
def size : Token → Nat
  | .ident .. => 1
  | .punct .. => 1
  | .literal _ => 1
  | .group _ inner => sizeAll inner + 1

/-- The number of tokens in a list of tokens. -/
def sizeAll : List Token → Nat
  | [] => 0
  | token :: tokens => sizeAll tokens + size token

end

mutual

/-- The number of tokens in a token, commas left out. -/
def weight : Token → Nat
  | .ident .. => 1
  | .punct char _ => if char = ',' then 0 else 1
  | .literal _ => 1
  | .group _ inner => weightAll inner + 1

/-- The number of tokens in a list of tokens, commas left out. -/
def weightAll : List Token → Nat
  | [] => 0
  | token :: tokens => weightAll tokens + weight token

end

mutual

/-- The first token to be seen in a token, and what is left behind it: a group with invisible
delimiters is seen through. -/
def front? : Token → Option (Token × List Token)
  | .group .invisible inner => frontAll? inner
  | token => some (token, [])

/-- The first token to be seen in a list of tokens, and what is left behind it. -/
def frontAll? : List Token → Option (Token × List Token)
  | [] => none
  | token :: tokens =>
      match front? token with
      | some (first, rest) => some (first, rest ++ tokens)
      | none => frontAll? tokens

end

mutual

/-- The part of a token that stands before a place.  A place is given by the number of tokens from
there on, of which some stand behind the token. -/
def before (place behind : Nat) : Token → List Token
  | .group .invisible inner =>
      if place ≤ behind then [.group .invisible inner] else beforeAll place behind inner
  | token => [token]

/-- The part of a list of tokens that stands before a place.  A group with invisible delimiters that
reaches beyond the place is opened. -/
def beforeAll (place behind : Nat) : List Token → List Token
  | [] => []
  | token :: tokens =>
      if sizeAll (token :: tokens) + behind ≤ place then []
      else before place (sizeAll tokens + behind) token ++ beforeAll place behind tokens

end

mutual

/-- Whether an identifier, which is not raw, occurs in a token at any depth. -/
def mentions (name : String) : Token → Bool
  | .ident raw found => !raw && found == name
  | .punct .. => false
  | .literal _ => false
  | .group _ inner => anyMentions name inner

/-- Whether an identifier occurs in a list of tokens at any depth. -/
def anyMentions (name : String) : List Token → Bool
  | [] => false
  | token :: tokens => mentions name token || anyMentions name tokens

end

end Token

end Source
end Assurance
