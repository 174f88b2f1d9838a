import Assurance.Source.Grammar.Item

namespace Assurance
namespace Source

/-!
# The grammar

The readers of all parts, tied together.  Every use of a part inside another one
spends a step.  Between two tokens only so many parts can begin inside each
other, so steps in proportion to the number of tokens are enough.  Commas do not
count, since the parts between them are not inside each other.
-/

namespace Grammar

/-- The readers of all parts, each of which spends a step for every part inside it. -/
def readWithin : Nat → Readers
  | 0, _ => failure
  | steps + 1, category =>
      let read := readWithin steps
      match category with
      | .expression records => expression read records
      | .unary records => unary read records
      | .operators left records base => operators read left records base
      | .operand records base => operand read records base
      | .operandRest left records base => operandRest read left records base
      | .early statement => early read statement
      | .statements => statements read
      | .item => item read
      | .namedFields => namedFields read
      | .type sums => type read sums
      | .bound captures constants => bound read captures constants
      | .imports rooted => imports read rooted
      | .pattern => pattern read
      | .alternatives => alternatives read

/-- Steps that are enough for some tokens. -/
def stepsFor (tokens : List Token) : Nat := 64 * (Token.weightAll tokens + 1)

/-- The readers of all parts of some tokens. -/
def readersFor (tokens : List Token) : Readers := readWithin (stepsFor tokens)

/-- An expression at the front of some tokens, in standard form, and what is left behind it. -/
def expression? (tokens : List Token) : Option Tape :=
  (readersFor tokens (.expression true) (.start tokens)).map Prod.snd

/-- The function item that some tokens are. -/
def functionItem? (tokens : List Token) : Option FunctionItem :=
  (Reader.readAll? (functionItem (readersFor tokens)) tokens).map Prod.fst

end Grammar

end Source
end Assurance
