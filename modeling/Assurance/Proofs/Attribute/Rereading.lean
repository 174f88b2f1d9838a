import Assurance.Attribute.Expansion
import Assurance.Proofs.Source.Rereading
import Assurance.Proofs.Source.Signature

namespace Assurance
namespace Attribute

/-!
# Reading what attributes write

What an attribute expands to is the item that the next attribute stands on, so it
is read again.  Its parts come from what was read before: the tokens up to the
block of the function, its result type, its block, and the condition.  If these
are read again as they stand, so are the statements that an attribute writes
around them, and the expansion is the function with a new block.

One thing is not written as it stands.  The bars of a closure without parameters
are joined when an attribute writes them, and apart when they have been read.
-/

open Source Source.Grammar Source.Reader Source.Tokens

variable {read : Readers} {steps : Nat} {rest before condition inner settled : List Token}
  {leftOver joint : Bool} {kind : Kind} {tier : Tier} {declared : Option (List Token)}

/-- The tokens that stand for the place of a call. -/
def place : List Token :=
  rootPath ["guardrail", "here"] ++ [Token.mark '!', .group .parenthesis []]

/-- The path of the function that makes a check. -/
def checkPath (kind : Kind) (tier : Tier) : List Token :=
  rootPath ["guardrail", "contract", checkName kind tier]

/-- What the function that makes a check is called with. -/
def checkArguments (condition : List Token) : List Token := condition ++ Token.mark ',' :: place

theorem checkStatement_eq_call (kind : Kind) (tier : Tier) (condition : List Token) :
    checkStatement kind tier condition =
      checkPath kind tier ++ [.group .parenthesis (checkArguments condition), Token.mark ';'] := by
  simp only [checkStatement, checkPath, checkArguments, place, List.append_assoc,
    List.cons_append, List.nil_append]

theorem checkStatement_append (kind : Kind) (tier : Tier) (condition rest : List Token) :
    checkStatement kind tier condition ++ rest =
      checkPath kind tier ++ .group .parenthesis (checkArguments condition) :: Token.mark ';' :: rest := by
  rw [checkStatement_eq_call, List.append_assoc]
  rfl

theorem expression_place (before : List Token) (leftOver : Bool) :
    readWithin (steps + 2) (.expression true) ⟨place, before, leftOver⟩ =
      some (.plain, ⟨[], before ++ place, leftOver⟩) := rfl

theorem commaList_checkArguments (stands : ConditionStands condition)
    (enough : stepsFor condition ≤ steps) :
    commaList (discard (readWithin (steps + 2) (.expression true)))
        (.start (checkArguments condition)) =
      some ((), ⟨[], checkArguments condition, false⟩) := by
  obtain ⟨shape, reads⟩ := stands
  have first := reads (steps + 2) (Nat.le_add_right_of_le enough) _ place [] false rfl
  have more : (checkArguments condition).isEmpty = false := by simp [checkArguments]
  have second : commaList (discard (readWithin (steps + 2) (.expression true)))
      ⟨place, condition ++ [Token.mark ','], false⟩ =
        some ((), ⟨[], condition ++ [Token.mark ','] ++ place, false⟩) :=
    repeating_stop (bind_eq rfl (bind_eq (discard_of (expression_place _ false)) rfl))
  have fewer : Token.sizeAll place < Token.sizeAll (checkArguments condition) := by
    have nonempty : condition ++ [Token.mark ','] ≠ [] := by simp
    have taken := Token.sizeAll_lt_append nonempty place
    rwa [List.append_assoc] at taken
  refine repeating_again ?_ fewer (second.trans ?_)
  · rw [sees_bind, Tape.start, more]
    exact bind_eq (discard_of first) rfl
  · rw [checkArguments, List.append_assoc]
    rfl

theorem unary_check
    (called : callArguments read ⟨.group .parenthesis inner :: rest, checkPath kind tier, leftOver⟩ =
      some ((), ⟨rest, checkPath kind tier ++ [.group .parenthesis inner], leftOver⟩))
    (stops : trailers read .plain
        ⟨rest, checkPath kind tier ++ [.group .parenthesis inner], leftOver⟩ =
      some (.plain, ⟨rest, checkPath kind tier ++ [.group .parenthesis inner], leftOver⟩))
    (before : List Token) :
    unary read true ⟨checkPath kind tier ++ .group .parenthesis inner :: rest, before, leftOver⟩ =
      some (.plain, ⟨rest, before ++ (checkPath kind tier ++ [.group .parenthesis inner]),
        leftOver⟩) := by
  have path : atom read true
      ⟨checkPath kind tier ++ .group .parenthesis inner :: rest, [], leftOver⟩ =
        some (.path false ⟨true, false, true, .absent⟩,
          ⟨.group .parenthesis inner :: rest, checkPath kind tier, leftOver⟩) := by
    cases kind <;> cases tier <;> rfl
  exact unary_of rfl path (trailers_call called stops) nofun before

/-- A path from the root begins an expression, and no declaration and no item. -/
theorem statement_begins_check :
    statement read ⟨checkPath kind tier ++ .group .parenthesis inner :: rest, before, leftOver⟩ =
      (do
        let shape ← read (.early true)
        if ← operator? ";" then return true
        return shape = .block || shape = .bracedMacro : Reader Bool)
        ⟨checkPath kind tier ++ .group .parenthesis inner :: rest, before, leftOver⟩ := by
  cases kind <;> cases tier <;> rfl

theorem statement_check (stands : ConditionStands condition) (enough : stepsFor condition ≤ steps)
    (kind : Kind) (tier : Tier) (rest before : List Token) (leftOver : Bool) :
    statement (readWithin (steps + 4))
        ⟨checkStatement kind tier condition ++ rest, before, leftOver⟩ =
      some (true, ⟨rest, before ++ checkStatement kind tier condition, leftOver⟩) := by
  rw [checkStatement_append]
  generalize arguments : checkArguments condition = inner
  have called : callArguments (readWithin (steps + 2))
      ⟨.group .parenthesis inner :: Token.mark ';' :: rest, checkPath kind tier, leftOver⟩ = _ :=
    group_of .parenthesis (by decide) (arguments ▸ commaList_checkArguments stands enough)
      (Token.mark ';' :: rest) (checkPath kind tier) leftOver
  have bare : outerAttributes (readWithin (steps + 3))
      ⟨checkPath kind tier ++ .group .parenthesis inner :: Token.mark ';' :: rest, [], leftOver⟩ =
        some ((), ⟨checkPath kind tier ++ .group .parenthesis inner :: Token.mark ';' :: rest, [],
          leftOver⟩) := rfl
  have first : earlyUnary (readWithin (steps + 3))
      ⟨checkPath kind tier ++ .group .parenthesis inner :: Token.mark ';' :: rest, [], leftOver⟩ =
        some (.plain, ⟨Token.mark ';' :: rest, checkPath kind tier ++ [.group .parenthesis inner],
          leftOver⟩) :=
    (unary_check called rfl [] : unary (readWithin (steps + 2)) _ _ = _)
  have whole : early (readWithin (steps + 3)) true
      ⟨checkPath kind tier ++ .group .parenthesis inner :: Token.mark ';' :: rest, before, leftOver⟩ =
        some (.plain, ⟨Token.mark ';' :: rest,
          before ++ (checkPath kind tier ++ [.group .parenthesis inner]), leftOver⟩) :=
    bind_eq (aside_of bare before)
      (bind_eq (aside_of (bind_eq first (bind_eq rfl rfl)) before) rfl)
  refine statement_begins_check.trans (bind_eq whole (bind_eq rfl ?_))
  change some (true, (⟨rest, _ ++ [Token.mark ';'], leftOver⟩ : Tape)) = _
  rw [checkStatement_eq_call, arguments, List.append_assoc, List.append_assoc]
  rfl

/-! ## The statement that names the result -/

/-- A closure without parameters around a block; its bars are joined or apart. -/
def closureWith (joint : Bool) (declared : Option (List Token)) (block : Token) : List Token :=
  [.punct '|' joint, Token.mark '|'] ++ typeBehind (Token.operator "->") declared ++ [block]

/-- The closure, called at once. -/
def calledAtOnce (joint : Bool) (declared : Option (List Token)) (block : Token) : List Token :=
  [.group .parenthesis (closureWith joint declared block), .group .parenthesis []]

/-- The declaration of the result. -/
def declarationWith (joint : Bool) (declared : Option (List Token)) (block : Token) : List Token :=
  [Token.word "let", Token.word "ret"] ++ typeBehind [Token.mark ':'] declared ++
    Token.mark '=' :: calledAtOnce joint declared block ++ [Token.mark ';']

theorem resultStatement_eq_declaration {result : Option (List Token)}
    (annotates : annotation? result = declared) (block : Token) :
    resultStatement result block = allowImmediateCall ++ declarationWith true declared block := by
  rw [resultStatement, annotates]
  cases declared <;> simp [declarationWith, calledAtOnce, closureWith, typeBehind, Token.operator,
    Token.operatorOf]

/-- What ends a declaration, from the value on. -/
def declarationEnd (read : Readers) : Reader Unit := do
  if ← operator? "=" then
    let (_, value) ← aside (read (.expression true))
    write value
    if !endsInBlock value && (← sees (wordNext "else")) then
      word "else"
      block read
  operator ";"

section Result

variable (settles : Settles inner settled) (enough : stepsFor inner ≤ steps)
  (typed : ∀ type, declared = some type → TypeStands type)
  (counted : stepsFor (declared.getD []) ≤ steps)

include settles enough typed counted

theorem closure_of :
    closure (readWithin (steps + 2)) true
        (.start (closureWith joint declared (.group .brace inner))) =
      some ((), ⟨[], closureWith false declared (.group .brace settled), false⟩) := by
  cases declared with
  | none =>
      exact (discard_of (expression_block settles enough _ false) :
        discard (readWithin (steps + 2) (.expression true)) _ = _)
  | some type =>
      obtain ⟨shape, reads⟩ := typed type rfl
      let front : List Token := [Token.mark '|', Token.mark '|'] ++ Token.operator "->"
      have first := reads (steps + 2) (Nat.le_add_right_of_le counted) (.group .brace inner) []
        front false (Or.inr ⟨_, rfl⟩)
      have second := block_of settles (Nat.le_add_right_of_le enough : _ ≤ steps + 2) []
        (front ++ type) false
      have behind := bind_of (discard_of first) fun _ => block (readWithin (steps + 2))
      exact Eq.trans rfl (behind.trans second)

theorem expression_closure :
    readWithin (steps + 4) (.expression true)
        (.start (closureWith joint declared (.group .brace inner))) =
      some (.plain, ⟨[], closureWith false declared (.group .brace settled), false⟩) := by
  have value : atom (readWithin (steps + 2)) true
      (.start (closureWith joint declared (.group .brace inner))) =
        some (.plain, ⟨[], closureWith false declared (.group .brace settled), false⟩) := by
    change (closure (readWithin (steps + 2)) true >>= fun _ => pure ExpressionShape.plain)
      (.start (closureWith joint declared (.group .brace inner))) = _
    exact bind_eq (closure_of settles enough typed counted) rfl
  have first : unary (readWithin (steps + 2)) true
      (.start (closureWith joint declared (.group .brace inner))) = _ :=
    unary_of rfl value rfl nofun []
  exact bind_eq first rfl

theorem expression_calledAtOnce (rest before : List Token) :
    readWithin (steps + 6) (.expression true)
        ⟨calledAtOnce joint declared (.group .brace inner) ++ Token.mark ';' :: rest, before,
          false⟩ =
      some (.plain, ⟨Token.mark ';' :: rest,
        before ++ calledAtOnce false declared (.group .brace settled), false⟩) := by
  have closed := commaList_one (List.cons_ne_nil _ _)
    (discard_of (@expression_closure steps inner settled joint declared settles enough typed counted))
  have inside := group_of .parenthesis (by decide) closed
    (.group .parenthesis [] :: Token.mark ';' :: rest) [] false
  have value : atom (readWithin (steps + 4)) true
      ⟨calledAtOnce joint declared (.group .brace inner) ++ Token.mark ';' :: rest, [], false⟩ =
        some (.plain, ⟨.group .parenthesis [] :: Token.mark ';' :: rest,
          [.group .parenthesis (closureWith false declared (.group .brace settled))], false⟩) :=
    bind_eq rfl (bind_eq inside rfl)
  have first : unary (readWithin (steps + 4)) true
      ⟨calledAtOnce joint declared (.group .brace inner) ++ Token.mark ';' :: rest, before,
        false⟩ = _ :=
    unary_of rfl value rfl nofun before
  exact bind_eq first rfl

theorem declarationEnd_of (rest before : List Token) :
    declarationEnd (readWithin (steps + 6))
        ⟨Token.mark '=' :: calledAtOnce joint declared (.group .brace inner) ++
          Token.mark ';' :: rest, before, false⟩ =
      some ((), ⟨rest, before ++ (Token.mark '=' ::
        calledAtOnce false declared (.group .brace settled) ++ [Token.mark ';']), false⟩) := by
  have value := aside_of
    (@expression_calledAtOnce steps inner settled joint declared settles enough typed counted rest [])
    (before ++ [Token.mark '='])
  refine bind_eq rfl ((bind_of value _).trans ?_)
  change some ((), (⟨rest, before ++ [Token.mark '='] ++
    calledAtOnce false declared (.group .brace settled) ++ [Token.mark ';'], false⟩ : Tape)) = _
  simp only [List.append_assoc, List.cons_append, List.nil_append]

theorem declaration_of (rest before : List Token) :
    declaration (readWithin (steps + 6))
        ⟨declarationWith joint declared (.group .brace inner) ++ rest, before, false⟩ =
      some ((), ⟨rest, before ++ declarationWith false declared (.group .brace settled),
        false⟩) := by
  have closing := @declarationEnd_of steps inner settled joint declared settles enough typed
    counted rest
  cases declared with
  | none =>
      have begins : declaration (readWithin (steps + 6))
          ⟨declarationWith joint none (.group .brace inner) ++ rest, before, false⟩ =
            declarationEnd (readWithin (steps + 6))
              ⟨Token.mark '=' :: calledAtOnce joint none (.group .brace inner) ++
                Token.mark ';' :: rest, before ++ [Token.word "let"] ++ [Token.word "ret"],
                false⟩ := rfl
      rw [begins, closing]
      simp only [declarationWith, typeBehind, List.append_assoc, List.cons_append, List.nil_append]
  | some type =>
      obtain ⟨shape, reads⟩ := typed type rfl
      let front : List Token := before ++ [Token.word "let"] ++ [Token.word "ret"] ++ [Token.mark ':']
      let behind : List Token := calledAtOnce joint (some type) (.group .brace inner) ++
        Token.mark ';' :: rest
      have first := reads (steps + 6) (Nat.le_add_right_of_le counted) (Token.mark '=') behind front
        false (Or.inl rfl)
      have written : declarationWith joint (some type) (.group .brace inner) ++ rest =
          [Token.word "let", Token.word "ret", Token.mark ':'] ++
            (type ++ Token.mark '=' :: behind) := by
        simp [declarationWith, typeBehind, behind]
      have begins : declaration (readWithin (steps + 6))
          ⟨[Token.word "let", Token.word "ret", Token.mark ':'] ++
            (type ++ Token.mark '=' :: behind), before, false⟩ =
            (discard (readWithin (steps + 6) (.type true)) >>= fun _ =>
              declarationEnd (readWithin (steps + 6)))
                ⟨type ++ Token.mark '=' :: behind, front, false⟩ := rfl
      rw [written, begins]
      refine bind_eq (discard_of first) ((closing _).trans ?_)
      simp only [declarationWith, typeBehind, front, List.append_assoc, List.cons_append,
        List.nil_append]

theorem statement_declaration (rest : List Token) :
    statement (readWithin (steps + 6))
        (.start (allowImmediateCall ++ declarationWith joint declared (.group .brace inner) ++
          rest)) =
      some (true, ⟨rest, allowImmediateCall ++
        declarationWith false declared (.group .brace settled), false⟩) := by
  have begins : statement (readWithin (steps + 6))
      (.start (allowImmediateCall ++ declarationWith joint declared (.group .brace inner) ++
        rest)) =
        (declaration (readWithin (steps + 6)) >>= fun _ => pure true)
          ⟨declarationWith joint declared (.group .brace inner) ++ rest, allowImmediateCall,
            false⟩ := rfl
  rw [begins]
  exact bind_eq (declaration_of settles enough typed counted rest allowImmediateCall) rfl

end Result

/-! ## Layers -/

/-- What stands in the braces of a layer for the entry. -/
def entryInner (tier : Tier) (condition : List Token) (block : Token) : List Token :=
  checkStatement .expects tier condition ++ [block]

/-- What stands in the braces of a layer for the exit. -/
def exitInner (joint : Bool) (declared : Option (List Token)) (block : Token) (tier : Tier)
    (condition : List Token) : List Token :=
  allowImmediateCall ++ declarationWith joint declared block ++
    checkStatement .ensures tier condition ++ [Token.word "ret"]

/-- A check is a statement of its own, before anything. -/
theorem operatorNext_check (rest : List Token) :
    operatorNext ";" (checkStatement kind tier condition ++ rest) = false := by
  rw [checkStatement_append]
  rfl

theorem checkStatement_ne_nil : checkStatement kind tier condition ≠ [] := by
  rw [checkStatement_eq_call]
  exact List.append_ne_nil_of_right_ne_nil _ (List.cons_ne_nil _ _)

theorem stepsFor_check (enough : stepsFor (checkStatement kind tier condition ++ rest) ≤ steps) :
    stepsFor condition + 7 ≤ steps ∧ stepsFor rest + 7 ≤ steps := by
  rw [checkStatement_eq_call] at enough
  simp only [stepsFor, Token.weightAll_append, Token.weightAll, Token.weight, checkArguments]
    at enough ⊢
  omega

theorem settles_entry (stands : ConditionStands condition) (settles : Settles inner settled)
    (tier : Tier) :
    Settles (entryInner tier condition (.group .brace inner))
      (entryInner tier condition (.group .brace settled)) where
  bare := by
    rw [entryInner, checkStatement_append]
    rfl
  reads {steps} enough := by
    obtain ⟨forCondition, forBlock⟩ := stepsFor_check enough
    have fewer : stepsFor inner ≤ stepsFor [.group .brace inner] := by
      simp only [stepsFor, Token.weightAll, Token.weight]
      omega
    obtain ⟨steps, rfl⟩ := Nat.exists_eq_add_of_le' (show 7 ≤ steps by omega)
    have checked := statement_check stands (show stepsFor condition ≤ steps + 2 by omega) .expects
      tier [.group .brace inner] [] false
    have ended := statement_block settles (show stepsFor inner ≤ steps + 5 by omega)
      (checkStatement .expects tier condition) false
    exact (readWithin_statements (steps + 6) _).trans
      (statements_again (operatorNext_check _) checked checkStatement_ne_nil (List.cons_ne_nil _ _)
        (statements_last rfl ended (List.cons_ne_nil _ _)))

theorem settles_exit (stands : ConditionStands condition) (settles : Settles inner settled)
    (typed : ∀ type, declared = some type → TypeStands type) (tier : Tier) :
    Settles (exitInner joint declared (.group .brace inner) tier condition)
      (exitInner false declared (.group .brace settled) tier condition) where
  bare := rfl
  reads {steps} enough := by
    have forDeclaration : stepsFor inner + 7 ≤ steps ∧ stepsFor (declared.getD []) + 7 ≤ steps ∧
        stepsFor (checkStatement .ensures tier condition ++ [Token.word "ret"]) ≤ steps := by
      simp only [exitInner, declarationWith, calledAtOnce, closureWith, stepsFor,
        Token.weightAll_append, Token.weightAll, Token.weight] at enough ⊢
      cases declared <;>
        simp only [typeBehind, Token.weightAll_append, Token.weightAll, Option.getD_none,
          Option.getD_some] at enough ⊢ <;>
        omega
    obtain ⟨forBlock, forType, forCheck⟩ := forDeclaration
    obtain ⟨forCondition, -⟩ := stepsFor_check forCheck
    obtain ⟨steps, rfl⟩ := Nat.exists_eq_add_of_le' (show 7 ≤ steps by omega)
    have declares := @statement_declaration steps inner settled joint declared settles (by omega)
      typed (by omega) (checkStatement .ensures tier condition ++ [Token.word "ret"])
    have checked := statement_check stands (show stepsFor condition ≤ steps + 2 by omega) .ensures
      tier [Token.word "ret"]
      (allowImmediateCall ++ declarationWith false declared (.group .brace settled)) false
    have ended : statement (readWithin (steps + 6)) ⟨[Token.word "ret"],
        allowImmediateCall ++ declarationWith false declared (.group .brace settled) ++
          checkStatement .ensures tier condition, false⟩ =
        some (false, ⟨[], exitInner false declared (.group .brace settled) tier condition,
          false⟩) := rfl
    have between := statements_again (operatorNext_check _) checked checkStatement_ne_nil
      (List.cons_ne_nil _ _) (statements_last rfl ended (List.cons_ne_nil _ _))
    have nonempty : allowImmediateCall ++ declarationWith joint declared (.group .brace inner) ≠ [] :=
      List.append_ne_nil_of_left_ne_nil (List.cons_ne_nil _ _) _
    have more : checkStatement .ensures tier condition ++ [Token.word "ret"] ≠ [] :=
      List.append_ne_nil_of_left_ne_nil checkStatement_ne_nil _
    rw [exitInner, List.append_assoc]
    exact (readWithin_statements (steps + 6) _).trans
      (statements_again rfl declares nonempty more between)

/-- The block of a body, in which the bars of all closures are joined or apart. -/
def blockWith (joint : Bool) (result : Option (List Token)) :
    Body (List Token) (List Token) Token → Token
  | .block block => block
  | .entry tier condition inner =>
      .group .brace (entryInner tier condition (blockWith joint result inner))
  | .exit inner tier condition =>
      .group .brace
        (exitInner joint (annotation? result) (blockWith joint result inner) tier condition)

/-- Attributes write bars that are joined. -/
theorem blockOf_eq_blockWith (result : Option (List Token))
    (body : Body (List Token) (List Token) Token) :
    blockOf result body = blockWith true result body := by
  induction body with
  | block block => rfl
  | entry tier condition inner inductionHypothesis =>
      rw [blockOf, blockWith, entryInner, inductionHypothesis]
  | exit inner tier condition inductionHypothesis =>
      rw [blockOf, blockWith, exitInner, resultStatement_eq_declaration rfl, inductionHypothesis]

/-- The parts of a function are read again as they stand: what stands before its block, its result
type where it is written at a closure, and its block. -/
structure FunctionStands (function : FunctionItem) : Prop where
  head : HeadStands function
  result {type : List Token} (annotates : annotation? function.result = some type) : TypeStands type
  block : ∃ inner, function.block = .group .brace inner ∧ Settles inner inner

/-- The function with one more condition attached to it, as it is read back. -/
def layered (function : FunctionItem) (clause : Clause (List Token) (List Token)) : FunctionItem :=
  { function with
    block := blockWith false function.result ((Body.block function.block).attach clause) }

/-- The condition of a clause is read again as it stands. -/
def ClauseStands : Clause (List Token) (List Token) → Prop
  | .entry _ condition => ConditionStands condition
  | .exit _ condition => ConditionStands condition

/-- What is written around the block of a function is read as the layer. -/
theorem settles_attach {function : FunctionItem} (stands : FunctionStands function)
    {clause : Clause (List Token) (List Token)} (again : ClauseStands clause) (joint : Bool) :
    ∃ inner settled,
      blockWith joint function.result ((Body.block function.block).attach clause) =
        .group .brace inner ∧
      (layered function clause).block = .group .brace settled ∧ Settles inner settled := by
  obtain ⟨inner, block, settles⟩ := stands.block
  have typed (type : List Token) (annotates : annotation? function.result = some type) :
      TypeStands type := stands.result annotates
  cases clause with
  | entry tier condition =>
      refine ⟨_, _, rfl, rfl, ?_⟩
      rw [blockWith, blockWith, block]
      exact settles_entry again settles tier
  | exit tier condition =>
      refine ⟨_, _, rfl, rfl, ?_⟩
      rw [blockWith, blockWith, block]
      exact settles_exit again settles typed tier

theorem FunctionStands.layered {function : FunctionItem} (stands : FunctionStands function)
    {clause : Clause (List Token) (List Token)} (again : ClauseStands clause) :
    FunctionStands (layered function clause) where
  head := stands.head
  result := stands.result
  block := by
    obtain ⟨inner, settled, written, block, settles⟩ := settles_attach stands again false
    obtain rfl : inner = settled := by
      have same := written.symm.trans block
      injection same
    exact ⟨inner, block, settles⟩

/-- What an attribute expands to is the function with its condition attached, unless attributes from
inside the old block have been written before it. -/
theorem functionItem?_attached {item : List Token} {function : FunctionItem}
    (read : HostLanguage.standard.functionItem? item = some function)
    (stands : FunctionStands function) {clause : Clause (List Token) (List Token)}
    (again : ClauseStands clause) :
    HostLanguage.standard.functionItem? (attached function clause) =
      if function.innerAttributes = [] then some (layered function clause) else none := by
  by_cases bare : function.innerAttributes = []
  · rw [if_pos bare]
    obtain ⟨inner, settled, written, block, settles⟩ := settles_attach stands again true
    have same : layered function clause =
        { function with innerAttributes := [], block := .group .brace settled } := by
      rw [← block, ← bare]
      rfl
    rw [attached, bare, List.append_nil, blockOf_eq_blockWith, written, same]
    exact functionItem?_of stands.head settles
  · rw [if_neg bare, attached, List.append_assoc, List.append_assoc]
    exact functionItem?_inner (wellFormed_of_functionItem? read) bare _

end Attribute
end Assurance
