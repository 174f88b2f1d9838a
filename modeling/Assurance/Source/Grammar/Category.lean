import Assurance.Source.Reader

namespace Assurance
namespace Source
namespace Grammar

/-!
# Categories

The parts of the grammar that contain each other.  A reader of one part takes
the readers of all of them as an argument; `Grammar.read` closes the circle.

The reader of a part tells what the parts around it have to know about it: for
instance that an expression is a range, which cannot be an operand.
-/

/-- How tightly operators bind, from the loosest on. -/
inductive Precedence where
  | any | assignment | range | or | and | binding | comparison | bitOr | bitXor | bitAnd
  | shift | sum | product | cast
deriving DecidableEq, Repr

def Precedence.level : Precedence → Nat
  | any => 0
  | assignment => 1
  | range => 2
  | or => 3
  | and => 4
  | binding => 5
  | comparison => 6
  | bitOr => 7
  | bitXor => 8
  | bitAnd => 9
  | shift => 10
  | sum => 11
  | product => 12
  | cast => 13

/-- Whether a precedence binds at least as tightly as another one. -/
def Precedence.atLeast (precedence other : Precedence) : Bool :=
  decide (other.level ≤ precedence.level)

/-- The arguments that a segment of a path has. -/
inductive Arguments where
  | absent
  /-- Angle brackets without anything between them. -/
  | empty
  | present
deriving DecidableEq, Repr

/-- What matters about a path. -/
structure PathShape where
  /-- It begins with two colons. -/
  leading : Bool
  /-- It has one segment. -/
  single : Bool
  /-- No segment has angle brackets. -/
  plain : Bool
  /-- The arguments of the last segment. -/
  last : Arguments
deriving DecidableEq, Repr

/-- What matters about an expression to the parts around it. -/
inductive ExpressionShape where
  | plain
  /-- Nothing but a path, which may be qualified by a type. -/
  | path (qualified : Bool) (shape : PathShape)
  /-- A range, which cannot be an operand. -/
  | range
  /-- A comparison, which cannot be compared. -/
  | comparison
  /-- An expression that ends in a block and is a statement by itself. -/
  | block
  /-- A group with invisible delimiters around such an expression. -/
  | groupedBlock
  /-- A macro call whose tokens stand in braces. -/
  | bracedMacro
  /-- An expression that is written exactly as it stands. -/
  | asItStands
deriving DecidableEq, Repr

/-- What matters about a type to the parts around it. -/
inductive TypeShape where
  | plain
  /-- A path, which may be qualified by a type. -/
  | path (qualified : Bool) (shape : PathShape)
  /-- A group with invisible delimiters around a path that is not qualified. -/
  | groupedPath
  /-- A single bound without a keyword. -/
  | bound
  | parenthesised
deriving DecidableEq, Repr

/-- Whether a type is a path that is not qualified, in a group or not. -/
def TypeShape.isPath : TypeShape → Bool
  | path qualified _ => !qualified
  | groupedPath => true
  | _ => false

/-- Whether a type is a path of one segment, which can name an associated item. -/
def TypeShape.isSegment : TypeShape → Bool
  | path qualified shape => !qualified && shape.single && !shape.leading
  | _ => false

/-- What matters about a bound to the parts around it. -/
inductive BoundShape where
  | capability
  | lifetime
  | captured
deriving DecidableEq, Repr

/-- What matters about a pattern to the parts around it. -/
inductive PatternShape where
  | plain
  /-- Two points, which stand for all that is left out. -/
  | rest
  /-- A range without a start or an end. -/
  | openRange
deriving DecidableEq, Repr

/-- The parts of the grammar that contain each other. -/
inductive Category where
  /-- An expression; records may be built in it or not. -/
  | expression (records : Bool)
  /-- An expression up to its first binary operator. -/
  | unary (records : Bool)
  /-- The operators after an expression, down to some precedence. -/
  | operators (left : ExpressionShape) (records : Bool) (base : Precedence)
  /-- The right operand of an operator of some precedence. -/
  | operand (records : Bool) (base : Precedence)
  /-- The rest of such an operand. -/
  | operandRest (left : ExpressionShape) (records : Bool) (base : Precedence)
  /-- A statement, or the body of a branch, that ends early if it is a statement by itself. -/
  | early (statement : Bool)
  /-- The statements of a block. -/
  | statements
  /-- An item with its attributes. -/
  | item
  /-- The named fields of a type. -/
  | namedFields
  /-- A type; a sum of bounds counts as one or not. -/
  | type (sums : Bool)
  /-- A bound; it may name captured arguments or not, and it may be constant or not. -/
  | bound (captures constants : Bool)
  /-- What an import names; the names inside it may begin at the root or not. -/
  | imports (rooted : Bool)
  /-- A pattern without alternatives. -/
  | pattern
  /-- A pattern with alternatives. -/
  | alternatives
deriving DecidableEq, Repr

/-- What the reader of a part tells. -/
@[reducible] def Category.Shape : Category → Type
  | expression _ => ExpressionShape
  | unary _ => ExpressionShape
  | operators .. => ExpressionShape
  | operand .. => ExpressionShape
  | operandRest .. => ExpressionShape
  | early _ => ExpressionShape
  | statements => Unit
  | item => Unit
  | namedFields => Unit
  | type _ => TypeShape
  | bound .. => BoundShape
  | imports _ => Bool
  | pattern => PatternShape
  | alternatives => PatternShape

/-- The readers of all parts. -/
abbrev Readers : Type := (category : Category) → Reader category.Shape

end Grammar
end Source
end Assurance
