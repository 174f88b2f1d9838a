import Assurance.Source.Token

namespace Assurance
namespace Source

/-!
# Printed tokens

Tokens are printed with one space between them, but none after a joined
punctuation character.  Nothing stands just inside parentheses and brackets, one
space just inside braces, and of a group with invisible delimiters only the
tokens inside it are printed.
-/

namespace Delimiter

/-- What is printed before the tokens of a group. -/
def opening : Delimiter → String
  | parenthesis => "("
  | bracket => "["
  | brace => "\x7b "
  | invisible => ""

/-- What is printed after the tokens of a group, which may be none. -/
def closing (empty : Bool) : Delimiter → String
  | parenthesis => ")"
  | bracket => "]"
  | brace => if empty then "\x7d" else " \x7d"
  | invisible => ""

end Delimiter

namespace Token

def identText (raw : Bool) (name : String) : String :=
  if raw then "r#" ++ name else name

/-- Whether the token after this one is printed right behind it. -/
def isJoint : Token → Bool
  | .punct _ joint => joint
  | _ => false

mutual

def print : Token → String
  | .ident raw name => identText raw name
  | .punct char _ => String.singleton char
  | .literal text => text
  | .group delimiter inner =>
      delimiter.opening ++ printAll inner ++ delimiter.closing inner.isEmpty

/-- The printed form of a list of tokens. -/
def printAll : List Token → String
  | [] => ""
  | token :: tokens => print token ++ printAfter token.isJoint tokens

/-- The printed form of what follows a token. -/
def printAfter (joint : Bool) : List Token → String
  | [] => ""
  | token :: tokens =>
      (if joint then "" else " ") ++ print token ++ printAfter token.isJoint tokens

end

end Token

end Source
end Assurance
