import Assurance.Source.Token

namespace Assurance
namespace Source
namespace Token

/-!
# Tokens up to spacing

Whether a punctuation character is joined to the next one belongs to the layout of
a text, and so do delimiters that cannot be seen.  Tokens without both are what
has to be kept by whatever reads tokens and writes them again.
-/

mutual

/-- A token without joints and without invisible delimiters. -/
def unspaced : Token → List Token
  | .punct char _ => [.punct char false]
  | .group .invisible inner => unspacedAll inner
  | .group delimiter inner => [.group delimiter (unspacedAll inner)]
  | token => [token]

/-- Tokens without joints and without invisible delimiters. -/
def unspacedAll : List Token → List Token
  | [] => []
  | token :: tokens => unspaced token ++ unspacedAll tokens

end

/-- Tokens that differ in spacing only. -/
def Alike (left right : List Token) : Prop := unspacedAll left = unspacedAll right

instance (left right : List Token) : Decidable (Alike left right) :=
  inferInstanceAs (Decidable (unspacedAll left = unspacedAll right))

end Token
end Source
end Assurance
