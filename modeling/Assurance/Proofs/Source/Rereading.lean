import Assurance.Proofs.Source.Running
import Assurance.Proofs.Source.Shown
import Assurance.Proofs.Source.Signature

namespace Assurance
namespace Source

/-!
# Reading what was written

Tokens that have been read before are written in standard form.  That they are
read again as they stand is not proved here for the whole grammar; it is said of
the tokens at hand, for every number of steps that is enough for them.
-/

namespace Grammar

open Reader Tokens

/-- Tokens are read as a part of the grammar up to some token, and written as they stand. -/
def ReadsBefore (next : Token → Prop) (category : Category) (tokens : List Token) : Prop :=
  ∃ value, ∀ steps, stepsFor tokens ≤ steps → ∀ token rest before leftOver, next token →
    readWithin steps category ⟨tokens ++ token :: rest, before, leftOver⟩ =
      some (value, ⟨token :: rest, before ++ tokens, leftOver⟩)

/-- The tokens of a block are read as statements, which are written in some way.  They do not begin
with attributes of what surrounds them. -/
structure Settles (inner settled : List Token) : Prop where
  bare : innerAttributeNext inner = false
  reads {steps : Nat} (enough : stepsFor inner ≤ steps) :
    readWithin steps .statements (.start inner) = some ((), ⟨[], settled, false⟩)

/-- A condition is read as it stands before the comma behind it. -/
def ConditionStands (condition : List Token) : Prop :=
  ReadsBefore (· = Token.mark ',') (.expression true) condition

/-- A type is read as it stands before a value and before a block. -/
def TypeStands (type : List Token) : Prop :=
  ReadsBefore (fun token => token = Token.mark '=' ∨ ∃ inner, token = .group .brace inner)
    (.type true) type

variable {read : Readers} {steps : Nat} {rest before inner settled : List Token} {leftOver : Bool}

/-- A value with nothing before it, and what follows it. -/
theorem unary_of {front written : List Token} {shape result : ExpressionShape} {left : Bool}
    (begins : standardUnary read true ⟨front, [], leftOver⟩ =
      (atom read true >>= fun shape => trailers read shape >>= pure) ⟨front, [], leftOver⟩)
    (first : atom read true ⟨front, [], leftOver⟩ = some (shape, after))
    (second : trailers read shape after = some (result, ⟨rest, written, left⟩))
    (plain : result ≠ .asItStands) (before : List Token) :
    unary read true ⟨front, before, leftOver⟩ = some (result, ⟨rest, before ++ written, left⟩) := by
  have whole : standardUnary read true ⟨front, [], leftOver⟩ =
      some (result, ⟨rest, written, left⟩) :=
    begins.trans (bind_eq first (bind_eq second rfl))
  refine standing_of (bind_eq whole ?_) before
  rw [decide_eq_false plain]
  rfl

theorem trailers_call {shape : ExpressionShape} {written : List Token} {left : Bool}
    {result : ExpressionShape × Tape}
    (called : callArguments read ⟨.group .parenthesis inner :: rest, before, leftOver⟩ =
      some ((), ⟨rest, written, left⟩))
    (others : trailers read .plain ⟨rest, written, left⟩ = some result) :
    trailers read shape ⟨.group .parenthesis inner :: rest, before, leftOver⟩ = some result := by
  refine repeatingFrom_again (bind_eq rfl (bind_eq called rfl)) ?_ others
  exact Token.sizeAll_lt_append (List.cons_ne_nil _ []) rest

theorem block_of (settles : Settles inner settled) (enough : stepsFor inner ≤ steps)
    (rest before : List Token) (leftOver : Bool) :
    block (readWithin steps) ⟨.group .brace inner :: rest, before, leftOver⟩ =
      some ((), ⟨rest, before ++ [.group .brace settled], leftOver⟩) :=
  group_of .brace (by decide) (settles.reads enough) rest before leftOver

theorem innerAttributes_of (settles : Settles inner settled) :
    innerAttributes read (.start inner) = some ((), .start inner) := by
  refine repeating_stop ?_
  rw [sees_bind, Tape.start, settles.bare]
  rfl

theorem blockExpression_of (settles : Settles inner settled) (enough : stepsFor inner ≤ steps)
    (rest before : List Token) (leftOver : Bool) :
    blockExpression (readWithin steps) ⟨.group .brace inner :: rest, before, leftOver⟩ =
      some ((), ⟨rest, before ++ [.group .brace settled], leftOver⟩) := by
  have attributed : attributedBlock (readWithin steps)
      ⟨.group .brace inner :: rest, before, leftOver⟩ =
      some ((), ⟨rest, before ++ [.group .brace settled], leftOver⟩) :=
    group_of .brace (by decide) (bind_eq (innerAttributes_of settles) (settles.reads enough)) rest
      before leftOver
  exact attributed

theorem expression_block (settles : Settles inner settled) (enough : stepsFor inner ≤ steps)
    (before : List Token) (leftOver : Bool) :
    readWithin (steps + 2) (.expression true) ⟨[.group .brace inner], before, leftOver⟩ =
      some (.block, ⟨[], before ++ [.group .brace settled], leftOver⟩) := by
  have value : atom (readWithin steps) true ⟨[.group .brace inner], [], leftOver⟩ =
      some (.block, ⟨[], [.group .brace settled], leftOver⟩) := by
    change (blockExpression (readWithin steps) >>= fun _ => pure ExpressionShape.block)
      ⟨[.group .brace inner], [], leftOver⟩ = _
    rw [bind_of (blockExpression_of settles enough _ _ _)]
    rfl
  have first : unary (readWithin steps) true ⟨[.group .brace inner], before, leftOver⟩ = _ :=
    unary_of rfl value rfl nofun before
  exact bind_eq first rfl

theorem readWithin_statements (steps : Nat) (tape : Tape) :
    readWithin (steps + 1) .statements tape = statements (readWithin steps) tape := rfl

/-- No empty statements stand before one that begins with another token than their mark. -/
theorem emptyStatements_of {front : List Token} (begins : operatorNext ";" front = false)
    (before : List Token) (leftOver : Bool) :
    repeating (operator? ";") ⟨front, before, leftOver⟩ = some ((), ⟨front, before, leftOver⟩) := by
  refine repeating_stop ?_
  rw [operator?, sees_bind, begins]
  rfl

theorem statements_again {front taken written : List Token} {left : Bool} {result : Unit × Tape}
    (begins : operatorNext ";" (taken ++ front) = false)
    (first : statement read ⟨taken ++ front, before, leftOver⟩ = some (true, ⟨front, written, left⟩))
    (takes : taken ≠ []) (more : front ≠ [])
    (others : statements read ⟨front, written, left⟩ = some result) :
    statements read ⟨taken ++ front, before, leftOver⟩ = some result := by
  have nonempty : taken ++ front ≠ [] := List.append_ne_nil_of_left_ne_nil takes front
  refine repeating_again ?_ (Token.sizeAll_lt_append takes front) others
  refine bind_eq (emptyStatements_of begins before leftOver) ?_
  rw [atEnd, sees_bind, List.isEmpty_eq_false_iff.mpr nonempty]
  refine bind_eq first ?_
  rw [sees_bind, List.isEmpty_eq_false_iff.mpr more]
  rfl

theorem statements_last {front written : List Token} {left closed : Bool}
    (begins : operatorNext ";" front = false)
    (first : statement read ⟨front, before, leftOver⟩ = some (closed, ⟨[], written, left⟩))
    (nonempty : front ≠ []) :
    statements read ⟨front, before, leftOver⟩ = some ((), ⟨[], written, left⟩) := by
  refine repeating_stop (bind_eq (emptyStatements_of begins before leftOver) ?_)
  rw [atEnd, sees_bind, List.isEmpty_eq_false_iff.mpr nonempty]
  exact bind_eq first rfl

theorem statement_block (settles : Settles inner settled) (enough : stepsFor inner ≤ steps)
    (before : List Token) (leftOver : Bool) :
    statement (readWithin (steps + 1)) ⟨[.group .brace inner], before, leftOver⟩ =
      some (true, ⟨[], before ++ [.group .brace settled], leftOver⟩) := by
  have first : earlyUnary (readWithin steps) ⟨[.group .brace inner], [], leftOver⟩ =
      some (.block, ⟨[], [.group .brace settled], leftOver⟩) :=
    bind_eq rfl (bind_eq rfl (bind_eq (blockExpression_of settles enough [] [] leftOver) rfl))
  have whole : early (readWithin steps) true ⟨[.group .brace inner], before, leftOver⟩ =
      some (.block, ⟨[], before ++ [.group .brace settled], leftOver⟩) :=
    bind_eq (aside_of rfl before) (bind_eq (aside_of (bind_eq first rfl) before) rfl)
  have begins : statement (readWithin (steps + 1)) ⟨[.group .brace inner], before, leftOver⟩ =
      (do
        let shape ← early (readWithin steps) true
        if ← operator? ";" then return true
        return shape = .block || shape = .bracedMacro : Reader Bool)
        ⟨[.group .brace inner], before, leftOver⟩ := rfl
  rw [begins]
  exact bind_eq whole rfl

/-! ## Functions -/

/-- What a function consists of up to its block, where no attributes stand inside the block. -/
def headOf (function : FunctionItem) : List Token :=
  function.outerAttributes ++ function.visibility ++ function.signature

/-- What stands before the block of a function is read as it stands before any block, and says the
same about the function. -/
def HeadStands (function : FunctionItem) : Prop :=
  ∃ about : Signature, about.isAsync = function.isAsync ∧ about.result = function.result ∧
    ∀ steps, stepsFor (headOf function) ≤ steps → ∀ inner,
      functionHead (readWithin steps) (.start (headOf function ++ [.group .brace inner])) =
        some ((about, function.outerAttributes, function.visibility, function.signature),
          .start [.group .brace inner])

/-- A function with another block. -/
theorem functionItem?_of {function : FunctionItem} (stands : HeadStands function)
    (settles : Settles inner settled) :
    functionItem? (headOf function ++ [.group .brace inner]) =
      some { function with innerAttributes := [], block := .group .brace settled } := by
  obtain ⟨about, sameAsync, sameResult, reads⟩ := stands
  have enough : stepsFor (headOf function) ≤ stepsFor (headOf function ++ [.group .brace inner]) ∧
      stepsFor inner ≤ stepsFor (headOf function ++ [.group .brace inner]) := by
    simp only [stepsFor, Token.weightAll_append, Token.weightAll, Token.weight]
    omega
  have head := reads _ enough.1 inner
  generalize headOf function ++ [.group .brace inner] = item at enough head ⊢
  have inside : functionBody (readersFor item) (.start inner) =
      some ([], ⟨[], settled, false⟩) :=
    bind_eq (aside_of (innerAttributes_of settles) []) (bind_eq (settles.reads enough.2) rfl)
  have enclosed := aside_of (group_of .brace (by decide) inside [] [] false) []
  have whole : functionItem (readersFor item) (.start item) = _ :=
    bind_eq head (bind_eq enclosed rfl)
  rw [functionItem?, readAll?, whole, sameAsync, sameResult]
  rfl

/-- Attributes from inside a block are not read before a function. -/
theorem outerAttributes_refuse {attributes : List Token}
    (outer : Attributes (Token.operator "#") attributes) (rest before : List Token)
    (leftOver : Bool) :
    outerAttributes read ⟨attributes ++ Token.mark '#' :: Token.mark '!' :: rest, before, leftOver⟩ =
      none := by
  let place (tape : Tape) : Prop := ∃ contents : List (List Token),
    tape.rest = (contents.flatMap fun content => Token.operator "#" ++ [.group .bracket content]) ++
      Token.mark '#' :: Token.mark '!' :: rest
  have goesOn {tape after : Tape} {more : Bool} (here : place tape)
      (found : (do
        if ← sees (operatorNext "#") then
          outerAttribute read
          return true
        return false : Reader Bool) tape = some (more, after)) : more = true ∧ place after := by
    obtain ⟨contents, front⟩ := here
    obtain ⟨_, before, leftOver⟩ := tape
    cases front
    cases contents with
    | nil => cases found
    | cons content contents =>
        obtain ⟨⟨_, ended⟩, first, same⟩ := Option.bind_eq_some_iff.mp found
        obtain ⟨⟨_, inside⟩, -, left⟩ := Option.map_eq_some_iff.mp first
        cases same
        cases left
        exact ⟨rfl, contents, rfl⟩
  obtain ⟨contents, rfl⟩ := outer
  exact repeating_none goesOn ⟨contents, rfl⟩

theorem functionItem?_inner {function : FunctionItem} (formed : WellFormed function)
    (inner : function.innerAttributes ≠ []) (rest : List Token) :
    functionItem? (function.outerAttributes ++ function.innerAttributes ++ rest) = none := by
  obtain ⟨more, begins⟩ : ∃ more, function.innerAttributes ++ rest =
      Token.mark '#' :: Token.mark '!' :: more := by
    obtain ⟨contents, written⟩ := formed.inner
    cases contents with
    | nil => exact absurd written inner
    | cons content contents => exact ⟨_, by rw [written]; rfl⟩
  rw [List.append_assoc, begins]
  have refused := @outerAttributes_refuse (readersFor (function.outerAttributes ++
    Token.mark '#' :: Token.mark '!' :: more)) _ formed.outer more [] false
  have whole : functionItem _ (.start _) = none :=
    bind_none (bind_none (aside_none refused))
  rw [functionItem?, readAll?, whole]
  rfl

end Grammar
end Source
end Assurance
