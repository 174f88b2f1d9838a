import Assurance.Text.Extending
import Assurance.Text.Unprintable

namespace Assurance
namespace Text

/-!
# Quoted texts

A text between double quotes.  A backslash, a quote and the usual control
characters are written as a backslash and one character; a character that cannot
be seen on its own is written by its number.
-/

/-- A character by its number. -/
def escapeByNumber (char : Char) : List Char :=
  "\\u\x7b".toList ++ Nat.toDigits 16 char.toNat ++ ['\x7d']

/-- A character as it is written between quotes. -/
def escape (char : Char) : List Char :=
  if char = '\x00' then ['\\', '0']
  else if char = '\t' then ['\\', 't']
  else if char = '\r' then ['\\', 'r']
  else if char = '\n' then ['\\', 'n']
  else if char = '\\' then ['\\', '\\']
  else if char = '"' then ['\\', '"']
  else if extending.contains char || unprintable.contains char then escapeByNumber char
  else [char]

def quote (text : List Char) : List Char :=
  ['"'] ++ text.flatMap escape ++ ['"']

end Text
end Assurance
