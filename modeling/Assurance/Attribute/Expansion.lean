import Assurance.Attribute.Argument
import Assurance.Contract.Body
import Assurance.Source.Lexer
import Assurance.Source.Printer

namespace Assurance
namespace Attribute

/-!
# Expansion of contract attributes

A contract attribute puts a layer of its condition around the body of the
function that it stands on.  The layer is written as a block: on entry the check
comes first and the old block follows it; on exit the old block becomes a
closure that is called at once, so that an early return inside it cannot leave
out the check.
-/

open Source

/-- The condition that an attribute with an argument attaches to a function. -/
def Kind.clause (kind : Kind) (argument : Argument) : Clause (List Token) (List Token) :=
  match kind with
  | expects => .entry argument.tier argument.condition
  | ensures => .exit argument.tier argument.condition

/-- A path from the root. -/
def rootPath (names : List String) : List Token :=
  names.flatMap fun name => Token.operator "::" ++ [Token.word name]

/-- The name of the function that makes a check. -/
def checkName (kind : Kind) : Tier → String
  | .default => kind.name ++ "_at"
  | tier => kind.name ++ "_" ++ tier.name ++ "_at"

/-- The statement that makes a check. -/
def checkStatement (kind : Kind) (tier : Tier) (condition : List Token) : List Token :=
  let location := rootPath ["guardrail", "here"] ++ [Token.mark '!', .group .parenthesis []]
  rootPath ["guardrail", "contract", checkName kind tier] ++
    [.group .parenthesis (condition ++ [Token.mark ','] ++ location), Token.mark ';']

/-- The attribute of a statement that calls a closure at once. -/
def allowImmediateCall : List Token :=
  [Token.mark '#', .group .bracket
    [Token.word "allow", .group .parenthesis
      ([Token.word "clippy"] ++ Token.operator "::" ++ [Token.word "redundant_closure_call"])]]

/-- The type that a result is annotated with: none for a type that is left open. -/
def annotation? : Option (List Token) → Option (List Token)
  | none => some [.group .parenthesis []]
  | some type => if Token.anyMentions "impl" type then none else some type

/-- The statement that names the result of a block. -/
def resultStatement (result : Option (List Token)) (block : Token) : List Token :=
  let (named, returned) := match annotation? result with
    | some type => ([Token.mark ':'] ++ type, Token.operator "->" ++ type)
    | none => ([], [])
  allowImmediateCall ++ [Token.word "let", Token.word "ret"] ++ named ++ [Token.mark '='] ++
    [.group .parenthesis (Token.operator "||" ++ returned ++ [block]), .group .parenthesis [],
     Token.mark ';']

/-- The block that a body is written as, in a function with a given result type. -/
def blockOf (result : Option (List Token)) : Body (List Token) (List Token) Token → Token
  | .block block => block
  | .entry tier condition inner =>
      .group .brace (checkStatement .expects tier condition ++ [blockOf result inner])
  | .exit inner tier condition =>
      .group .brace (resultStatement result (blockOf result inner) ++
        checkStatement .ensures tier condition ++ [Token.word "ret"])

/-- A function with one more condition attached to it, as tokens. -/
def attached (function : Grammar.FunctionItem) (clause : Clause (List Token) (List Token)) :
    List Token :=
  function.outerAttributes ++ function.innerAttributes ++ function.visibility ++
    function.signature ++ [blockOf function.result ((Body.block function.block).attach clause)]

/-- Expand an attribute with an argument on an item. -/
def expand (host : HostLanguage) (kind : Kind) (argument item : List Token) :
    Except Rejection (List Token) := do
  let argument ← Argument.read host argument
  match host.functionItem? item with
  | none => .error .malformed
  | some function =>
      if function.isAsync then .error (.asyncFunction kind)
      else .ok (attached function (kind.clause argument))

/-- Expand an attribute whose argument and item are given as texts. -/
def expandText (kind : Kind) (argument item : String) : Except Rejection String :=
  match tokens? argument, tokens? item with
  | some argument, some item => (expand .standard kind argument item).map Token.printAll
  | _, _ => .error .unreadable

end Attribute
end Assurance
