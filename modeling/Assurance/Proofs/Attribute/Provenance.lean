import Assurance.Proofs.Attribute.Acceptance
import Assurance.Proofs.Source.Occurrence
import Assurance.Proofs.Source.Spacing

namespace Assurance
namespace Attribute

/-!
# Where the tokens of an expansion come from

An expansion consists of tokens of the function that carries the attribute, of
the condition, and of tokens that the attribute adds.  Here every token gets its
origin.  Which token has which origin is said by the layout of an expansion, for
each kind of attribute.

With the origins at hand it can be seen what an attribute does to a function:
nothing but to add.  Without the added tokens an expansion is the function again,
as it was read, with its old block in one place; and the condition stands in one
place too.

What was read is what was given, if the language keeps the tokens of what it
reads.  It does so up to spacing, and it need not do so for every argument and
every function, only for those at hand.

Main statement: `expand_keeps_tokens`.
-/

open Source Source.Grammar Argument

variable {host : HostLanguage}

/-- What tokens of an expansion come from. -/
inductive Origin where
  /-- The function that carries the attribute. -/
  | function
  | condition
  /-- The attribute adds them. -/
  | added
deriving DecidableEq, Repr

/-- A piece of an expansion. -/
inductive Piece where
  /-- Tokens of one origin. -/
  | stretch (origin : Origin) (tokens : List Token)
  /-- Pieces between delimiters that the attribute adds. -/
  | enclosed (delimiter : Delimiter) (pieces : List Piece)

namespace Piece

mutual

/-- The tokens of a piece. -/
def written : Piece → List Token
  | stretch _ tokens => tokens
  | enclosed delimiter pieces => [.group delimiter (writtenAll pieces)]

/-- The tokens of pieces. -/
def writtenAll : List Piece → List Token
  | [] => []
  | piece :: pieces => written piece ++ writtenAll pieces

end

mutual

/-- The tokens of one origin in a piece, place by place. -/
def places (origin : Origin) : Piece → List (List Token)
  | stretch found tokens => if found = origin then [tokens] else []
  | enclosed _ pieces => placesAll origin pieces

/-- The tokens of one origin in pieces, place by place. -/
def placesAll (origin : Origin) : List Piece → List (List Token)
  | [] => []
  | piece :: pieces => places origin piece ++ placesAll origin pieces

end

/-- What is left of pieces if all tokens but those of one origin are deleted. -/
def keepOnly (origin : Origin) (pieces : List Piece) : List Token :=
  (placesAll origin pieces).flatten

end Piece

/-- The statement that makes a check: a call of a function of checks with the condition and the
place of the call. -/
def checkPieces (called : String) (condition : List Token) : List Piece :=
  [.stretch .added (colons ++ [Token.word "guardrail"] ++ colons ++ [Token.word "contract"] ++
      colons ++ [Token.word called]),
   .enclosed .parenthesis [
     .stretch .condition condition,
     .stretch .added ([.punct ',' false] ++ colons ++ [Token.word "guardrail"] ++ colons ++
       [Token.word "here", .punct '!' false, .group .parenthesis []])],
   .stretch .added [.punct ';' false]]

/-- How a result is annotated, behind its name and behind the bars of the closure: by the unit type
if the signature has no result type, by nothing if `impl` occurs in that type, and otherwise by the
type. -/
inductive Annotated : Option (List Token) → List Token → List Token → Prop where
  | unit : Annotated none [.punct ':' false, .group .parenthesis []]
      [.punct '-' true, .punct '>' false, .group .parenthesis []]
  | declared {type : List Token} (settled : ¬ Token.Occurs "impl" type) :
      Annotated (some type) (.punct ':' false :: type) (.punct '-' true :: .punct '>' false :: type)
  | inferred {type : List Token} (opened : Token.Occurs "impl" type) : Annotated (some type) [] []

/-- The statement that binds the result to a closure around the block, which is called at once. -/
def resultPieces (named returned : List Token) (block : Token) : List Piece :=
  [.stretch .added ([.punct '#' false, .group .bracket [Token.word "allow",
      .group .parenthesis ([Token.word "clippy"] ++ colons ++
        [Token.word "redundant_closure_call"])]] ++
      [Token.word "let", Token.word "ret"] ++ named ++ [.punct '=' false]),
   .enclosed .parenthesis [
     .stretch .added ([.punct '|' true, .punct '|' false] ++ returned),
     .stretch .function [block]],
   .stretch .added [.group .parenthesis [], .punct ';' false]]

/-- The layout of an expansion: the function up to its block, and new braces.  They hold the check
and the block; or the result of the block, the check, and the name of the result. -/
inductive Layout (function : FunctionItem) (called : String) (condition : List Token) :
    Kind → List Piece → Prop where
  | expects :
      Layout function called condition .expects [
        .stretch .function (headOf function),
        .enclosed .brace (checkPieces called condition ++ [.stretch .function [function.block]])]
  | ensures {named returned : List Token} (annotated : Annotated function.result named returned) :
      Layout function called condition .ensures [
        .stretch .function (headOf function),
        .enclosed .brace (resultPieces named returned function.block ++
          checkPieces called condition ++ [.stretch .added [Token.word "ret"]])]

namespace Piece

theorem writtenAll_append (front back : List Piece) :
    writtenAll (front ++ back) = writtenAll front ++ writtenAll back := by
  induction front with
  | nil => rfl
  | cons piece front inductionHypothesis =>
      rw [List.cons_append, writtenAll, writtenAll, inductionHypothesis, List.append_assoc]

theorem writtenAll_checkPieces (called : String) (condition : List Token) :
    writtenAll (checkPieces called condition) = callStatement called condition := by
  simp [checkPieces, writtenAll, written, callStatement]

/-- The statement that names the result, for annotations in the sense of `Annotated`. -/
theorem resultStatement_eq {result : Option (List Token)} {named returned : List Token}
    (annotated : Annotated result named returned) (block : Token) :
    resultStatement result block = allowImmediateCall ++ [Token.word "let", Token.word "ret"] ++
      named ++ [Token.mark '='] ++ [.group .parenthesis (Token.operator "||" ++ returned ++ [block]),
        .group .parenthesis [], Token.mark ';'] := by
  cases annotated with
  | unit => rfl
  | @declared type settled =>
      have unmentioned : Token.anyMentions "impl" type = false :=
        Bool.eq_false_iff.mpr (mt Token.anyMentions_eq_true_iff.mp settled)
      rw [resultStatement, annotation?, unmentioned]
      rfl
  | @inferred type opened =>
      have mentioned : Token.anyMentions "impl" type = true :=
        Token.anyMentions_eq_true_iff.mpr opened
      rw [resultStatement, annotation?, mentioned]
      rfl

theorem writtenAll_resultPieces {result : Option (List Token)} {named returned : List Token}
    (annotated : Annotated result named returned) (block : Token) :
    writtenAll (resultPieces named returned block) = resultStatement result block := by
  rw [resultStatement_eq annotated]
  simp only [resultPieces, writtenAll, written, List.append_assoc, List.append_nil]
  rfl

end Piece

theorem exists_annotated (result : Option (List Token)) :
    ∃ named returned, Annotated result named returned := by
  cases result with
  | none => exact ⟨_, _, .unit⟩
  | some type =>
      by_cases opened : Token.Occurs "impl" type
      · exact ⟨_, _, .inferred opened⟩
      · exact ⟨_, _, .declared opened⟩

theorem exists_layout (function : FunctionItem) (called : String) (condition : List Token)
    (kind : Kind) : ∃ pieces, Layout function called condition kind pieces := by
  cases kind with
  | expects => exact ⟨_, .expects⟩
  | ensures =>
      rcases exists_annotated function.result with ⟨named, returned, annotated⟩
      exact ⟨_, .ensures annotated⟩

namespace Layout

variable {function : FunctionItem} {called : String} {condition : List Token} {kind : Kind}
  {pieces : List Piece}

theorem writtenAll_eq (layout : Layout function called condition kind pieces) :
    Piece.writtenAll pieces = headOf function ++
      [.group .brace (aroundBlock kind function (callStatement called condition))] := by
  cases layout with
  | expects =>
      simp only [Piece.writtenAll, Piece.written, Piece.writtenAll_append,
        Piece.writtenAll_checkPieces, aroundBlock, List.append_nil]
  | ensures annotated =>
      simp only [Piece.writtenAll, Piece.written, Piece.writtenAll_append,
        Piece.writtenAll_checkPieces, Piece.writtenAll_resultPieces annotated, aroundBlock,
        List.append_nil]

/-- The function has two places: one up to its block, and one for the block. -/
theorem placesAll_function (layout : Layout function called condition kind pieces) :
    Piece.placesAll .function pieces = [headOf function, [function.block]] := by
  cases layout <;> rfl

/-- The condition has one place. -/
theorem placesAll_condition (layout : Layout function called condition kind pieces) :
    Piece.placesAll .condition pieces = [condition] := by
  cases layout <;> rfl

end Layout

/-! ## What an attribute keeps -/

/-- The language keeps the tokens of an argument and an item: an expression is written as the tokens
that it took, and a function without attributes inside its block as the tokens of the item. -/
structure HostLanguage.KeepsTokens (host : HostLanguage) (tokens item : List Token) : Prop where
  expression {tier : Tier} {rest : List Token} {tape : Tape} (splits : Splits tokens tier rest)
      (read : host.expression? rest = some tape) : Token.Alike rest (tape.written ++ tape.rest)
  function {function : FunctionItem} (read : host.functionItem? item = some function)
      (bare : function.innerAttributes = []) : Token.Alike item (headOf function ++ [function.block])

/-- The tokens of an argument are a tier or none, a condition, and one comma or none. -/
def Consists (tokens : List Token) (argument : Argument) : Prop :=
  ∃ rest left, Splits tokens argument.tier rest ∧ Token.Alike rest (argument.condition ++ left) ∧
    (left = [] ∨ OnlyComma left)

theorem consists_of_read {tokens item : List Token} (keeps : host.KeepsTokens tokens item)
    {argument : Argument} (accepted : Argument.read host tokens = .ok argument) :
    Consists tokens argument := by
  obtain ⟨tier, rest, splits⟩ := exists_splits tokens
  obtain ⟨rfl, left, found, ended⟩ := expression_of_read splits accepted
  exact ⟨rest, left, splits, keeps.expression splits found, ended⟩

/-- An argument that can be read, and a function, not asynchronous and without attributes inside its
block.  The attribute expands, to tokens that are laid out as said for its kind.  The condition has
one place there.  The function has two, its block being one of them; without all other tokens the
expansion is the function up to its block, and its block.  If the language keeps the tokens at hand,
these are the tokens of the item, and the condition is what the argument consists of between its tier
and its comma. -/
theorem expand_keeps_tokens {kind : Kind} {tokens item : List Token} {argument : Argument}
    (accepted : Argument.read host tokens = .ok argument) {function : FunctionItem}
    (read : host.functionItem? item = some function) (waits : function.isAsync = false)
    (bare : function.innerAttributes = []) :
    ∃ pieces, Layout function (calledFunction kind argument.tier) argument.condition kind pieces ∧
      expand host kind tokens item = .ok (Piece.writtenAll pieces) ∧
      Piece.placesAll .condition pieces = [argument.condition] ∧
      Piece.placesAll .function pieces = [headOf function, [function.block]] ∧
      Piece.keepOnly .function pieces = headOf function ++ [function.block] ∧
      (host.KeepsTokens tokens item →
        Token.Alike (Piece.keepOnly .function pieces) item ∧ Consists tokens argument) := by
  obtain ⟨pieces, layout⟩ :=
    exists_layout function (calledFunction kind argument.tier) argument.condition kind
  have kept : Piece.keepOnly .function pieces = headOf function ++ [function.block] := by
    rw [Piece.keepOnly, layout.placesAll_function]
    simp only [List.flatten_cons, List.flatten_nil, List.append_nil]
  refine ⟨pieces, layout, ?_, layout.placesAll_condition, layout.placesAll_function, kept, ?_⟩
  · rw [expand_eq_ok accepted read waits, attached_clause, layout.writtenAll_eq, headOf, bare,
      List.append_nil]
  · intro keeps
    rw [kept]
    exact ⟨(keeps.function read bare).symm, consists_of_read keeps accepted⟩

/-- A condition on exit, with operators side by side, on a function with attributes, a visibility and
a result type with brackets side by side. -/
theorem expand_keeps_sample :
    let block : Token := .group .brace [.literal "1"]
    let vector (inner : List Token) : List Token :=
      [Token.word "Vec", Token.mark '<'] ++ inner
    let head : List Token :=
      [Token.mark '#', .group .bracket [Token.word "inline"], Token.word "pub", Token.word "fn",
        Token.word "one", .group .parenthesis []] ++ Token.operator "->"
    let item : List Token :=
      head ++ vector (vector [Token.word "u8"]) ++ Token.operator ">>" ++ [block]
    let condition : List Token := Token.operator "!*" ++ [Token.word "flag"]
    let tokens : List Token := [Token.word "audit", Token.mark ','] ++ condition ++ [Token.mark ',']
    ∃ function pieces,
      Layout function "ensures_audit_at"
          [Token.mark '!', Token.mark '*', Token.word "flag"] .ensures pieces ∧
      expand .standard .ensures tokens item = .ok (Piece.writtenAll pieces) ∧
      Token.Alike (Piece.keepOnly .function pieces) item := by
  intro block vector head item condition tokens
  have accepted : Argument.read .standard tokens =
      .ok ⟨.audit, [Token.mark '!', Token.mark '*', Token.word "flag"]⟩ := by
    decide +kernel
  have read : HostLanguage.standard.functionItem? item = some
      { outerAttributes := head.take 2
        innerAttributes := []
        visibility := [Token.word "pub"]
        isAsync := false
        signature := (head.drop 3) ++ vector (vector [Token.word "u8"]) ++
          [Token.mark '>', Token.mark '>']
        result := some (vector (vector [Token.word "u8"]) ++ [Token.mark '>', Token.mark '>'])
        block } := by
    decide +kernel
  have found : HostLanguage.standard.expression? (condition ++ [Token.mark ',']) =
      some ⟨[Token.mark ','], [Token.mark '!', Token.mark '*', Token.word "flag"], false⟩ := by
    decide +kernel
  -- There is one reading of the argument and one of the item, both computed above.
  have keeps : HostLanguage.standard.KeepsTokens tokens item := by
    constructor
    · intro tier rest tape splits reads
      have audit : Splits tokens .audit (condition ++ [Token.mark ',']) :=
        .audit (.here (Token.isSeen_word _) _) (.here (Token.isSeen_punct _ _) _)
      obtain ⟨rfl, rfl⟩ := Prod.mk.inj
        ((splitTier_of_splits splits).symm.trans (splitTier_of_splits audit))
      obtain rfl := Option.some.inj (found.symm.trans reads)
      decide +kernel
    · intro function reads bare
      obtain rfl := Option.some.inj (read.symm.trans reads)
      decide +kernel
  obtain ⟨pieces, layout, expanded, -, -, -, kept⟩ :=
    @expand_keeps_tokens _ .ensures _ _ _ accepted _ read rfl rfl
  exact ⟨_, pieces, layout, expanded, (kept keeps).1⟩

end Attribute
end Assurance
