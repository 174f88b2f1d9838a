import Assurance.Proofs.Source.SteadyType
import Assurance.Source.Grammar
import Mathlib.Data.List.Find

namespace Assurance
namespace Source
namespace Grammar

/-!
# Expressions before a comma

An expression reads the same if a comma stands behind it, and it takes a token.
So do all of its parts that do not stand in groups.

One view of a closure does see a comma: the third token in `for < x ,`.  Without
the comma such tokens would be a loop, but a loop does not end there.
-/

open Reader Tokens Token

-- A reader with many branches has a large instance.
set_option synthInstance.maxSize 1000000

variable {read : Readers} [readers : SteadyReaders read] {records captures constants sums : Bool}
  {left : ExpressionShape} {base : Precedence}

theorem binaryOperatorNext?_comma (tokens : List Token) (joint : Bool) :
    binaryOperatorNext? (tokens ++ [.punct ',' joint]) = binaryOperatorNext? tokens := by
  have plain : ∀ operator ∈ binaryOperators, ',' ∉ operator.1.toList := by decide
  exact List.find?_congr fun operator listed =>
    (overlooks_operatorNext (plain operator listed)).overlooks tokens joint

instance : Overlooks assignmentNext :=
  inferInstanceAs (Overlooks fun _ => _ && _)

theorem precedenceNext_comma (tokens : List Token) (joint : Bool) :
    precedenceNext (tokens ++ [.punct ',' joint]) = precedenceNext tokens := by
  simp only [precedenceNext, binaryOperatorNext?_comma, overlooks assignmentNext,
    overlooks (operatorNext ".."), overlooks (wordNext "as")]

instance : OverlooksBehind (openRangeNext records) :=
  inferInstanceAs (OverlooksBehind fun _ => _ || _)

instance : SeesComma (openRangeNext records) :=
  inferInstanceAs (SeesComma fun _ => _ || _)

instance : Advancing (rangeTail read records) := by
  -- At the end an operand could not be read, and before a comma none is looked for.
  have ended : Steady (do
      if ← sees (openRangeNext records) then return ()
      discard (read (.operand records .range))) := steady_unless
  have flipped (stops : Bool) (reader : Reader Unit) :
      (if !stops then reader else pure ()) = if stops then pure () else reader := by
    cases stops <;> rfl
  have tail (inclusive : Bool) : Advancing (do
      if !inclusive then operator ".."
      if inclusive || !(← sees (openRangeNext records)) then
        discard (read (.operand records .range))) := by
    cases inclusive with
    | true =>
        exact inferInstanceAs (Advancing (discard (read (.operand records .range))))
    | false =>
        simp only [Bool.false_or, Bool.not_false, if_true, flipped]
        infer_instance
  unfold rangeTail
  infer_instance

instance : Steady (castType read) := by
  unfold castType
  infer_instance

instance : Overlooks castEnds :=
  inferInstanceAs (Overlooks fun _ => !_)

instance : Steady (operators read left records base) := by
  unfold operators
  refine steady_of_get (fun tape => ?_) fun _ joint => ?_
  · dsimp only
    cases binaryOperatorNext? tape.rest with
    | none => infer_instance
    | some found =>
        dsimp only
        infer_instance
  · simp only [Tape.beforeComma, binaryOperatorNext?_comma, overlooks assignmentNext,
      overlooks (operatorNext ".."), overlooks (wordNext "as")]

instance : Advancing (operand read records base) := by
  unfold operand
  infer_instance

instance : Steady (operandRest read left records base) := by
  unfold operandRest
  refine steady_of_get (fun tape => ?_) fun _ joint => ?_
  · have more : Steady (do
        let before := (← get).rest
        let shape ← read (.operators left records (precedenceNext tape.rest))
        if (← get).rest = before then return shape
        read (.operandRest shape records base)) := steady_of_progress
    infer_instance
  · dsimp only [Tape.beforeComma]
    rw [precedenceNext_comma]

/-! ## Expressions -/

instance : Overlooks expressionNext :=
  inferInstanceAs (Overlooks fun _ => _ || _)

instance : Advancing (conditional read) := by
  unfold conditional
  dsimp only
  infer_instance

instance : Advancing (matching read) := by
  unfold matching
  infer_instance

instance : Advancing (loopOrBlock read) := by
  unfold loopOrBlock
  infer_instance

instance : Advancing (labelled read) := by
  unfold labelled
  infer_instance

instance : Advancing (blockExpression read) := by
  unfold blockExpression
  infer_instance

instance : Steady (closureParameter read) := by
  unfold closureParameter
  dsimp only
  infer_instance

instance : Advancing (closure read records) := by
  unfold closure
  infer_instance

instance : Advancing (breaking read records) := by
  unfold breaking
  dsimp only
  infer_instance

instance : Advancing continuing := by
  unfold continuing
  infer_instance

instance (keyword : String) : Advancing (jump read keyword) := by
  unfold jump
  infer_instance

instance : Advancing (tailCall read) := by
  unfold tailCall
  infer_instance

instance : Overlooks builtinCallNext :=
  inferInstanceAs (Overlooks fun _ => _ && _)

instance : Advancing builtinCall := by
  unfold builtinCall
  infer_instance

instance : Advancing (binding read records) := by
  unfold binding
  infer_instance

instance : Steady (fields read) := by
  unfold fields
  infer_instance

instance (qualified : Bool) (shape : PathShape) :
    Steady (pathRest read records qualified shape) := by
  unfold pathRest
  infer_instance

instance : Advancing (pathExpression read records) := by
  unfold pathExpression
  infer_instance

instance : Advancing (groupedExpression read records) := by
  unfold groupedExpression
  refine .bind fun ⟨shape, written⟩ => ?_
  dsimp only
  split <;> infer_instance

instance : Advancing (array read) := by
  unfold array
  infer_instance

instance : Overlooks tryPathNext :=
  inferInstanceAs (Overlooks fun _ => _ && _)

section Closures

variable {tokens : List Token} {joint : Bool}

/-- Whether parameters come next depends on a comma only where it is the third token. -/
theorem parametersNext_comma (tokens : List Token) (joint : Bool) :
    parametersNext (tokens ++ [.punct ',' joint]) = parametersNext tokens ∨
      (operatorNext "<" tokens = true ∧ parametersNext tokens = false ∧
        shownAll (skip (skip tokens)) = []) := by
  simp only [parametersNext, overlooks (operatorNext "<"),
    overlooks fun tokens => operatorNext ">" (skip tokens),
    overlooks fun tokens => operatorNext "#" (skip tokens),
    overlooks fun tokens => wordNext "const" (skip tokens),
    overlooks fun tokens => lifetimeNext (skip tokens),
    overlooks fun tokens => nameNext (skip tokens),
    overlooks fun tokens => operatorNext ">" (skip (skip tokens)),
    overlooks fun tokens => operatorNext "=" (skip (skip tokens)),
    overlooks fun tokens => operatorNext ":" (skip (skip tokens)),
    overlooks fun tokens => operatorNext "::" (skip (skip tokens))]
  by_cases more : shownAll (skip (skip tokens)) = []
  · rw [operatorNext_of_nothing "," more]
    grind
  · left
    have third : operatorNext "," (skip (skip (tokens ++ [.punct ',' joint]))) =
        operatorNext "," (skip (skip tokens)) := by
      rcases skip_comma tokens joint with same | longer
      · rw [same]
      · rw [longer]
        exact overlooks_behind_skip more joint
    rw [third]

/-- Whether a closure comes next depends on a comma only where its lifetimes break off. -/
theorem closureNext_comma (tokens : List Token) (joint : Bool) :
    closureNext (tokens ++ [.punct ',' joint]) = closureNext tokens ∨
      (wordNext "for" tokens = true ∧ operatorNext "<" (skip tokens) = true ∧
        closureNext tokens = false ∧ shownAll (skip (skip (skip tokens))) = []) := by
  have parameters : parametersNext (skip (tokens ++ [.punct ',' joint])) =
        parametersNext (skip tokens) ∨
      (operatorNext "<" (skip tokens) = true ∧ parametersNext (skip tokens) = false ∧
        shownAll (skip (skip (skip tokens))) = []) := by
    rcases skip_comma tokens joint with same | longer
    · exact .inl (congrArg parametersNext same)
    · rw [longer]
      exact parametersNext_comma (skip tokens) joint
  simp only [closureNext, closureLifetimesNext, overlooks (operatorNext "|"),
    overlooks (wordNext _), overlooks fun tokens => groupNext .brace (skip tokens),
    overlooks fun tokens => operatorNext "|" (skip tokens),
    overlooks fun tokens => wordNext "move" (skip tokens)]
  rcases parameters with same | ⟨opens, unclosed, breaks⟩
  · rw [same]
    exact .inl rfl
  · rw [unclosed]
    grind

omit readers in
/-- A loop over the parts of something. -/
theorem blockExpression_of_for {tape : Tape} {tokens : List Token}
    (front : visible tape.rest = Token.word "for" :: tokens) :
    blockExpression read tape = (do
      word "for"
      discard (read .alternatives)
      word "in"
      discard (read (.expression false))
      attributedBlock read) tape := by
  have begins : wordNext "for" tape.rest = true := by
    rw [wordNext, front]
    rfl
  have absent {name : String} (other : name ≠ "for") : word? name tape = some (false, tape) := by
    simp only [word?, sees_bind, wordNext_of_word front other]
    rfl
  have unlabelled : lifetimeNext tape.rest = false := by
    simp only [lifetimeNext, front, Token.word]
  have noWord {name : String} (other : name ≠ "for") : wordNext name tape.rest = false :=
    wordNext_of_word front other
  simp only [blockExpression, loopOrBlock, sees_bind, noWord (by decide : "if" ≠ "for"),
    noWord (by decide : "match" ≠ "for"), unlabelled, bind_of (absent (by decide : "try" ≠ "for")),
    bind_of (absent (by decide : "unsafe" ≠ "for")), bind_of (absent (by decide : "const" ≠ "for")),
    bind_of (absent (by decide : "while" ≠ "for")), Bool.false_eq_true, if_false]
  simp only [word?, bind_assoc, sees_bind, begins, if_true, pure_bind]

/-- Lifetimes of a closure that break off do not begin a loop: too few tokens are left for its
keyword, its expression and its block. -/
theorem blockExpression_eq_none {tape : Tape} (begins : wordNext "for" tape.rest = true)
    (opens : operatorNext "<" (skip tape.rest) = true)
    (breaks : shownAll (skip (skip (skip tape.rest))) = []) : blockExpression read tape = none := by
  have front := visible_of_wordNext begins
  refine Option.eq_none_iff_forall_ne_some.mpr fun ⟨_, ended⟩ found => ?_
  rw [blockExpression_of_for front] at found
  obtain ⟨⟨_, behind⟩, begun, found⟩ := Option.bind_eq_some_iff.mp found
  obtain ⟨⟨_, within⟩, bound, found⟩ := Option.bind_eq_some_iff.mp found
  obtain ⟨⟨_, value⟩, keyword, found⟩ := Option.bind_eq_some_iff.mp found
  obtain ⟨⟨_, body⟩, expression, found⟩ := Option.bind_eq_some_iff.mp found
  have block : attributedBlock read body = some (_, ended) := found
  have shownWithin := shownAll_of_word keyword
  have shorter : (shownAll body.rest).length < (shownAll value.rest).length :=
    Advancing.advances expression
  have shortest : (shownAll ended.rest).length < (shownAll body.rest).length :=
    Advancing.advances block
  obtain ⟨joint, opening⟩ := visible_of_openNext opens
  have shownBehind : shownAll behind.rest =
      .punct '<' joint :: shownAll (skip (skip tape.rest)) := by
    have shown := shownAll_of_word begun
    rw [(Token.visible_eq_cons_iff.mp front).shownAll_eq] at shown
    rw [← (List.cons_eq_cons.mp shown).2, (Token.visible_eq_cons_iff.mp opening).shownAll_eq]
  have few := shownAll_le_skip (skip (skip tape.rest))
  rw [breaks, List.length_nil] at few
  -- The pattern takes nothing then, but the keyword behind it is not what opens the lifetimes.
  have whole : shownAll within.rest = shownAll behind.rest := by
    refine List.IsSuffix.eq_of_length_le (Steady.leaves bound) ?_
    rw [shownWithin, shownBehind, List.length_cons, List.length_cons]
    omega
  rw [shownWithin, shownBehind] at whole
  cases whole

omit readers in
/-- What begins with `for` is a loop, if it is no closure. -/
theorem atom_of_for {tape : Tape} (seen : groupNext .invisible tape.rest = false)
    (begins : wordNext "for" tape.rest = true) (unclosed : closureNext tape.rest = false) :
    atom read records tape = (do blockExpression read; return ExpressionShape.block) tape := by
  have front := visible_of_wordNext begins
  have noLiteral : literalNext tape.rest = false := by
    simp only [literalNext, front, Token.word]
    decide
  have noOperator := operatorNext_of_word front
  have noWord {name : String} (other : name ≠ "for") : wordNext name tape.rest = false :=
    wordNext_of_word front other
  have noName : nameNext tape.rest = false := by
    simp only [nameNext, front, Token.word]
    decide
  have noGroup {delimiter : Delimiter} (other : delimiter ≠ .invisible) :
      groupNext delimiter tape.rest = false := by
    simp only [groupNext, groupsOf, if_neg other, front, Token.word]
  have noWords {names : List String} (other : "for" ∉ names) :
      oneOfWordsNext names tape.rest = false :=
    List.any_eq_false.mpr fun name listed => by
      rw [noWord fun same => other (same ▸ listed)]
      exact Bool.false_ne_true
  have looping : oneOfWordsNext ["if", "while", "for", "loop", "match"] tape.rest = true :=
    List.any_eq_true.mpr ⟨"for", by decide, begins⟩
  have noPath : pathNext tape.rest = false := by
    rw [pathNext, noName, noWords (by decide), noOperator, noOperator]
    rfl
  have noCall : builtinCallNext tape.rest = false := by
    rw [builtinCallNext, noWord (by decide)]
    rfl
  have noTry : tryPathNext tape.rest = false := by
    rw [tryPathNext, noWord (by decide)]
    rfl
  unfold atom
  simp only [get_bind, seen, noLiteral, noWord (by decide : "async" ≠ "for"),
    noWord (by decide : "try" ≠ "for"), unclosed, noCall, noPath, noTry,
    noGroup (by decide : Delimiter.parenthesis ≠ .invisible),
    noGroup (by decide : Delimiter.bracket ≠ .invisible), noWord (by decide : "break" ≠ "for"),
    noWord (by decide : "continue" ≠ "for"), noWord (by decide : "return" ≠ "for"),
    noWord (by decide : "become" ≠ "for"), noWord (by decide : "let" ≠ "for"), looping,
    Bool.false_and, Bool.false_or, Bool.false_eq_true, if_false, if_true]

end Closures

instance : Advancing (atom read records) := by
  unfold atom
  refine advancing_of_get (fun tape => ?_) fun {tape _ _} found joint => ?_
  · dsimp only
    infer_instance
  · dsimp only [Tape.beforeComma] at found ⊢
    rcases closureNext_comma tape.rest joint with same | ⟨begins, opens, unclosed, breaks⟩
    · simp only [same, overlooks (groupNext _), overlooks literalNext, overlooks (wordNext _),
        overlooks builtinCallNext, overlooks pathNext, overlooks tryPathNext,
        overlooks (oneOfWordsNext _), overlooks (operatorNext ".."), overlooks lifetimeNext,
        overlooks fun tokens => groupNext .brace (skip tokens),
        overlooks fun tokens => groupNext .brace (skip (skip tokens)),
        overlooks fun tokens => wordNext "move" (skip tokens)]
    -- Before the comma lifetimes break off, so what was read is a group, or nothing has been read.
    · cases grouped : groupNext .invisible tape.rest with
      | true => simp only [overlooks (groupNext _), grouped, if_true]
      | false =>
          have unread : atom read records tape = none :=
            (atom_of_for grouped begins unclosed).trans
              (bind_none (blockExpression_eq_none begins opens breaks))
          cases unread.symm.trans found

instance : Steady (callArguments read) := by
  unfold callArguments
  infer_instance

instance : Steady (member read) := by
  unfold member
  infer_instance

instance : Steady (afterPoint read) := by
  unfold afterPoint
  refine steady_of_get (fun tape => ?_) fun {tape _ _} _ joint => ?_
  · split
    · rename_i text _ _
      cases fieldChain? text <;> infer_instance
    · infer_instance
  · dsimp only [Tape.beforeComma]
    rw [visible_comma]
    cases visible tape.rest with
    | nil => rfl
    | cons first rest => cases first <;> rfl

instance : Overlooks pointNext :=
  inferInstanceAs (Overlooks fun _ => _ && _)

instance (shape : ExpressionShape) : Steady (trailers read shape) := by
  unfold trailers
  infer_instance

instance : Overlooks expressionAttributeNext :=
  inferInstanceAs (Overlooks fun _ => _ && _)

instance : Steady (expressionAttributes read) := by
  unfold expressionAttributes
  infer_instance

instance : Advancing (standardUnary read records) := by
  have prefixed (grouped : Bool) (tokens : List Token) (joint : Bool) :
      ((if grouped then [] else ["*", "!", "-"]).find? fun text =>
          operatorNext text (tokens ++ [.punct ',' joint])) =
        (if grouped then [] else ["*", "!", "-"]).find? fun text => operatorNext text tokens := by
    have plain : ∀ text ∈ if grouped then [] else ["*", "!", "-"], ',' ∉ text.toList := by
      cases grouped <;> decide
    exact List.find?_congr fun text listed =>
      (overlooks_operatorNext (plain text listed)).overlooks tokens joint
  unfold standardUnary
  refine .behind fun attributed => .behind fun _ => .behind fun grouped => .behind fun _ => ?_
  dsimp only
  split
  · infer_instance
  · refine advancing_of_get (fun tape => ?_) fun {tape _ _} _ joint => ?_
    · split
      · infer_instance
      · refine .bind fun shape => .bind fun shape => ?_
        cases shape <;> infer_instance
    · dsimp only [Tape.beforeComma]
      rw [prefixed]

instance : Advancing (unary read records) := by
  unfold unary
  infer_instance

instance : Advancing (expression read records) := by
  unfold expression
  infer_instance

/-! ## The whole grammar -/

/-- What is steady with some steps is steady with one more. -/
instance steadyReaders (steps : Nat) : SteadyReaders (readWithin steps) := by
  induction steps with
  | zero =>
      exact {
        operators := fun _ _ _ => inferInstanceAs (Steady failure)
        operandRest := fun _ _ _ => inferInstanceAs (Steady failure)
        type := fun _ => inferInstanceAs (Steady failure)
        pattern := inferInstanceAs (Steady failure)
        alternatives := inferInstanceAs (Steady failure)
        expression := fun _ => inferInstanceAs (Advancing failure)
        unary := fun _ => inferInstanceAs (Advancing failure)
        operand := fun _ _ => inferInstanceAs (Advancing failure)
        bound := fun _ _ => inferInstanceAs (Advancing failure) }
  | succ steps inductionHypothesis =>
      let read := readWithin steps
      exact {
        operators := fun left records base =>
          inferInstanceAs (Steady (Grammar.operators read left records base))
        operandRest := fun left records base =>
          inferInstanceAs (Steady (Grammar.operandRest read left records base))
        type := fun sums => inferInstanceAs (Steady (Grammar.type read sums))
        pattern := inferInstanceAs (Steady (Grammar.pattern read))
        alternatives := inferInstanceAs (Steady (Grammar.alternatives read))
        expression := fun records => inferInstanceAs (Advancing (Grammar.expression read records))
        unary := fun records => inferInstanceAs (Advancing (Grammar.unary read records))
        operand := fun records base =>
          inferInstanceAs (Advancing (Grammar.operand read records base))
        bound := fun captures constants =>
          inferInstanceAs (Advancing (Grammar.bound read captures constants)) }

instance (tokens : List Token) : SteadyReaders (readersFor tokens) := steadyReaders _

theorem stepsFor_comma (tokens : List Token) (joint : Bool) :
    stepsFor (tokens ++ [.punct ',' joint]) = stepsFor tokens := by
  rw [stepsFor, weightAll_append]
  rfl

/-- An expression takes tokens from the front, and at least one of them. -/
theorem expression?_takes {tokens : List Token} {tape : Tape}
    (read : expression? tokens = some tape) :
    ∃ taken, taken ≠ [] ∧ shownAll tokens = taken ++ shownAll tape.rest := by
  obtain ⟨⟨shape, tape⟩, found, rfl⟩ := Option.map_eq_some_iff.mp read
  obtain ⟨taken, same⟩ := Steady.leaves found
  refine ⟨taken, ?_, same.symm⟩
  rintro rfl
  have fewer := Advancing.advances found
  rw [← same] at fewer
  exact Nat.lt_irrefl _ fewer

/-- An expression reads the same if a comma stands behind it. -/
theorem expression?_comma {tokens : List Token} {tape : Tape}
    (read : expression? tokens = some tape) (joint : Bool) :
    expression? (tokens ++ [.punct ',' joint]) = some (tape.beforeComma joint) := by
  obtain ⟨⟨shape, tape⟩, found, rfl⟩ := Option.map_eq_some_iff.mp read
  rw [expression?, readersFor, stepsFor_comma]
  exact Option.map_eq_some_iff.mpr ⟨_, Steady.again found joint, rfl⟩

end Grammar
end Source
end Assurance
