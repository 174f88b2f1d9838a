import Assurance.Proofs.Attribute.Rereading

namespace Assurance
namespace Attribute

/-!
# Stacks of contract attributes

What an attribute expands to is the item that the next attribute stands on.  So
the expansion has to stay inside the language of function items, whatever the
function looks like and however many layers it has already.

What is asked of the function and of the conditions is that their parts are read
again as they stand.  They have been read once and are in standard form.  Then
the expansion is read as the function with one more layer around its block, and
this block is read again as it stands too.  So nothing is lost in a stack, of any
height.

One thing breaks a stack.  Attributes that stand inside the block of a function
are written before the function, where the language does not read them, so a
function that has some carries one attribute and no more.

Main statement: `expandAll_eq_ok_iff`.
-/

open Source Source.Grammar

variable {host : HostLanguage}

/-- An attribute as it stands on a function. -/
structure Contract where
  kind : Kind
  argument : List Token

/-- The argument of an attribute can be read, and the attribute attaches a given clause. -/
def Contract.Attaches (host : HostLanguage) (contract : Contract)
    (clause : Clause (List Token) (List Token)) : Prop :=
  ∃ argument, Argument.read host contract.argument = .ok argument ∧
    clause = contract.kind.clause argument

theorem expand_apply {kind : Kind} {tokens item : List Token} {argument : Argument}
    (readArgument : Argument.read host tokens = .ok argument) {function : FunctionItem}
    (readItem : host.functionItem? item = some function) :
    expand host kind tokens item =
      if function.isAsync then .error (.asyncFunction kind)
      else .ok (attached function (kind.clause argument)) := by
  simp only [expand, readArgument, bind, Except.bind, readItem]

theorem expand_eq_ok {kind : Kind} {tokens item : List Token} {argument : Argument}
    (readArgument : Argument.read host tokens = .ok argument) {function : FunctionItem}
    (readItem : host.functionItem? item = some function) (waits : function.isAsync = false) :
    expand host kind tokens item = .ok (attached function (kind.clause argument)) := by
  rw [expand_apply readArgument readItem, waits]
  rfl

theorem expand_ne_ok {kind : Kind} {tokens item : List Token}
    (unread : host.functionItem? item = none) (output : List Token) :
    expand host kind tokens item ≠ .ok output := by
  intro expanded
  cases readArgument : Argument.read host tokens with
  | error rejection =>
      simp only [expand, readArgument, bind, Except.bind] at expanded
      cases expanded
  | ok argument =>
      simp only [expand, readArgument, bind, Except.bind, unread] at expanded
      cases expanded

/-! ## Stacks -/

/-- Expand attributes one after the other, from the one that is written first. -/
def expandAll (host : HostLanguage) : List Contract → List Token → Except Rejection (List Token)
  | [], item => .ok item
  | contract :: stack, item => do
      let expanded ← expand host contract.kind contract.argument item
      expandAll host stack expanded

theorem expandAll_cons {contract : Contract} {item output : List Token}
    (expanded : expand host contract.kind contract.argument item = .ok output)
    (stack : List Contract) :
    expandAll host (contract :: stack) item = expandAll host stack output := by
  rw [expandAll, expanded]
  rfl

theorem expandAll_ne_ok {item : List Token} (unread : host.functionItem? item = none)
    (contract : Contract) (stack : List Contract) (output : List Token) :
    expandAll host (contract :: stack) item ≠ .ok output := by
  intro expanded
  rw [expandAll] at expanded
  cases once : expand host contract.kind contract.argument item with
  | error rejection =>
      rw [once] at expanded
      cases expanded
  | ok written => exact expand_ne_ok unread written once

/-- Layers can be written down and attached to one after the other. -/
theorem blockWith_attachAll_congr {joint : Bool} {result : Option (List Token)}
    {left right : Body (List Token) (List Token) Token}
    (same : blockWith joint result left = blockWith joint result right)
    (clauses : List (Clause (List Token) (List Token))) :
    blockWith joint result (left.attachAll clauses) =
      blockWith joint result (right.attachAll clauses) := by
  induction clauses generalizing left right with
  | nil => exact same
  | cons clause clauses inductionHypothesis =>
      have attached : blockWith joint result (left.attach clause) =
          blockWith joint result (right.attach clause) := by
        cases clause <;> simp only [Body.attach, blockWith, same]
      exact inductionHypothesis attached

/-- The function with conditions attached to it in the order in which they are written. -/
def layeredAll (function : FunctionItem) (clauses : List (Clause (List Token) (List Token))) :
    FunctionItem :=
  { function with
    block := blockWith false function.result ((Body.block function.block).attachAll clauses) }

theorem layeredAll_nil (function : FunctionItem) : layeredAll function [] = function := by
  rcases function with ⟨outer, inner, visible, isAsync, signature, result, block⟩
  simp only [layeredAll, Body.attachAll, List.foldl_nil, blockWith]

theorem layeredAll_layered (function : FunctionItem) (clause : Clause (List Token) (List Token))
    (clauses : List (Clause (List Token) (List Token))) :
    layeredAll (layered function clause) clauses = layeredAll function (clause :: clauses) := by
  have same : blockWith false function.result (Body.block (layered function clause).block) =
      blockWith false function.result ((Body.block function.block).attach clause) := by
    rw [blockWith, layered]
  have written := blockWith_attachAll_congr same clauses
  unfold layeredAll
  exact congrArg (fun block => { function with block }) written

/-- A stack on a function without attributes inside its block expands, to that function with all
conditions attached. -/
theorem expandAll_eq_ok {stack : List Contract} {clauses : List (Clause (List Token) (List Token))}
    (attach : List.Forall₂ (Contract.Attaches .standard) stack clauses)
    (again : ∀ clause ∈ clauses, ClauseStands clause) {item : List Token} {function : FunctionItem}
    (read : HostLanguage.standard.functionItem? item = some function)
    (stands : FunctionStands function) (waits : function.isAsync = false)
    (bare : function.innerAttributes = []) :
    ∃ output, expandAll .standard stack item = .ok output ∧
      HostLanguage.standard.functionItem? output = some (layeredAll function clauses) := by
  induction attach generalizing item function with
  | nil =>
      refine ⟨item, rfl, ?_⟩
      rw [layeredAll_nil]
      exact read
  | @cons contract clause stack clauses attaches rest inductionHypothesis =>
      obtain ⟨first, others⟩ := List.forall_mem_cons.mp again
      have reads := functionItem?_attached read stands first
      rw [if_pos bare] at reads
      rcases inductionHypothesis others reads (stands.layered first) waits bare with
        ⟨output, expanded, found⟩
      refine ⟨output, ?_, ?_⟩
      · rcases attaches with ⟨argument, readArgument, rfl⟩
        rw [expandAll_cons (expand_eq_ok readArgument read waits)]
        exact expanded
      · rw [← layeredAll_layered]
        exact found

/-- A function that is not asynchronous, the parts of which are read again as they stand.  Each
attribute whose argument can be read expands on it, and what it expands to is read back, if the
condition is, as the same function with one more layer around its block: attributes, visibility and
signature are as they were, and it is still not asynchronous.  If attributes stand inside the block
of the function, it is not read back, whatever the condition.  A stack of two or more expands exactly
if there are none; then every stack does, to the function with all layers, in the order of
writing. -/
theorem expandAll_eq_ok_iff {item : List Token} {function : FunctionItem}
    (read : HostLanguage.standard.functionItem? item = some function)
    (stands : FunctionStands function) (waits : function.isAsync = false) :
    (∀ (contract : Contract) (clause : Clause (List Token) (List Token)),
      contract.Attaches .standard clause → ClauseStands clause →
        ∃ output, expand .standard contract.kind contract.argument item = .ok output ∧
          HostLanguage.standard.functionItem? output =
            if function.innerAttributes = [] then
              some { function with
                block := blockWith false function.result
                  ((Body.block function.block).attach clause) }
            else none) ∧
    (∀ (stack : List Contract) (clauses : List (Clause (List Token) (List Token))),
      List.Forall₂ (Contract.Attaches .standard) stack clauses →
      (∀ clause ∈ clauses, ClauseStands clause) → 2 ≤ stack.length →
        ((∃ output, expandAll .standard stack item = .ok output) ↔
          function.innerAttributes = [])) ∧
    (function.innerAttributes = [] →
      ∀ (stack : List Contract) (clauses : List (Clause (List Token) (List Token))),
        List.Forall₂ (Contract.Attaches .standard) stack clauses →
        (∀ clause ∈ clauses, ClauseStands clause) →
          ∃ output, expandAll .standard stack item = .ok output ∧
            HostLanguage.standard.functionItem? output = some { function with
              block := blockWith false function.result
                ((Body.block function.block).attachAll clauses) }) := by
  have once : ∀ (contract : Contract) (clause : Clause (List Token) (List Token)),
      contract.Attaches .standard clause → ClauseStands clause →
        ∃ output, expand .standard contract.kind contract.argument item = .ok output ∧
          HostLanguage.standard.functionItem? output =
            if function.innerAttributes = [] then some (layered function clause) else none := by
    intro contract clause attaches again
    refine ⟨attached function clause, ?_, functionItem?_attached read stands again⟩
    rcases attaches with ⟨argument, readArgument, rfl⟩
    exact expand_eq_ok readArgument read waits
  refine ⟨once, ?_, ?_⟩
  · intro stack clauses attach again several
    constructor
    · rintro ⟨output, expanded⟩
      by_contra inner
      -- The second attribute stands on what the first one wrote, which is not a function.
      match stack, attach with
      | first :: second :: stack, .cons attaches _ =>
          rcases once first _ attaches (List.forall_mem_cons.mp again).1 with
            ⟨written, expandedOnce, unread⟩
          rw [if_neg inner] at unread
          rw [expandAll_cons expandedOnce] at expanded
          exact expandAll_ne_ok unread second stack output expanded
      | [_], _ => exact absurd several (by simp)
      | [], _ => exact absurd several (by simp)
    · intro bare
      rcases expandAll_eq_ok attach again read stands waits bare with ⟨output, expanded, _⟩
      exact ⟨output, expanded⟩
  · intro bare stack clauses attach again
    exact expandAll_eq_ok attach again read stands waits bare

/-- The head of a function, up to its block. -/
def sampleHead : List Token :=
  [Token.mark '#', .group .bracket [Token.word "inline"], Token.word "pub", Token.word "fn",
   Token.word "one", .group .parenthesis []] ++ Token.operator "->" ++ [Token.word "u8"]

/-- A function with that head. -/
def sampleFunction : FunctionItem where
  outerAttributes := sampleHead.take 2
  innerAttributes := []
  visibility := (sampleHead.drop 2).take 1
  isAsync := false
  signature := sampleHead.drop 3
  result := some [Token.word "u8"]
  block := .group .brace [.literal "1"]

/-- The tokens of that function. -/
def sampleItem : List Token := sampleHead ++ [.group .brace [.literal "1"]]

theorem functionItem?_sample :
    HostLanguage.standard.functionItem? sampleItem = some sampleFunction := by
  decide +kernel

theorem headStands_sample : HeadStands sampleFunction := by
  refine ⟨⟨false, false, some [Token.word "u8"]⟩, rfl, rfl, fun steps enough inner => ?_⟩
  obtain ⟨steps, rfl⟩ := Nat.exists_eq_add_of_le' (Nat.le_trans (by decide +kernel : 5 ≤ _) enough)
  rfl

theorem typeStands_u8 : TypeStands [Token.word "u8"] := by
  refine ⟨.path false ⟨false, true, true, .absent⟩, fun steps enough token rest _ _ next => ?_⟩
  obtain ⟨steps, rfl⟩ := Nat.exists_eq_add_of_le' (Nat.le_trans (by decide : 3 ≤ _) enough)
  obtain rfl | ⟨inner, rfl⟩ := next
  · rfl
  · rfl

theorem functionStands_sample : FunctionStands sampleFunction where
  head := headStands_sample
  result annotates := by
    cases annotates
    exact typeStands_u8
  block := by
    refine ⟨_, rfl, rfl, fun {steps} enough => ?_⟩
    obtain ⟨steps, rfl⟩ := Nat.exists_eq_add_of_le' (Nat.le_trans (by decide : 5 ≤ _) enough)
    rfl

theorem conditionStands_ret : ConditionStands [Token.word "ret"] := by
  refine ⟨.path false ⟨false, true, true, .absent⟩, ?_⟩
  rintro steps enough _ rest before leftOver rfl
  obtain ⟨steps, rfl⟩ := Nat.exists_eq_add_of_le' (Nat.le_trans (by decide : 3 ≤ _) enough)
  rfl

theorem conditionStands_ready : ConditionStands [Token.word "ready"] := by
  refine ⟨.path false ⟨false, true, true, .absent⟩, ?_⟩
  rintro steps enough _ rest before leftOver rfl
  obtain ⟨steps, rfl⟩ := Nat.exists_eq_add_of_le' (Nat.le_trans (by decide : 3 ≤ _) enough)
  rfl

/-- A condition on exit below one on entry. -/
theorem expandAll_sample :
    let clauses : List (Clause (List Token) (List Token)) :=
      [.exit .audit [Token.word "ret"], .entry .default [Token.word "ready"]]
    ∃ output, expandAll .standard
        [⟨.ensures, [Token.word "audit", Token.mark ',', Token.word "ret"]⟩,
         ⟨.expects, [Token.word "ready"]⟩] sampleItem = .ok output ∧
      HostLanguage.standard.functionItem? output = some { sampleFunction with
        block := blockWith false (some [Token.word "u8"])
          ((Body.block sampleFunction.block).attachAll clauses) } := by
  intro clauses
  have again : ∀ clause ∈ clauses, ClauseStands clause :=
    List.forall_mem_cons.mpr
      ⟨conditionStands_ret, List.forall_mem_singleton.mpr conditionStands_ready⟩
  exact (expandAll_eq_ok_iff functionItem?_sample functionStands_sample rfl).2.2 rfl _ clauses
    (.cons ⟨⟨.audit, [Token.word "ret"]⟩, by decide +kernel, rfl⟩
      (.cons ⟨⟨.default, [Token.word "ready"]⟩, by decide +kernel, rfl⟩ .nil)) again

/-- An attribute inside the block of a function: the function can be read, one attribute expands on
it, and what comes out is not a function any more, so a second attribute does not expand. -/
theorem expandAll_inner_attribute :
    let inner : List Token := [Token.mark '#', Token.mark '!', .group .bracket [Token.word "a"]]
    let head : List Token := [Token.word "fn", Token.word "f", .group .parenthesis []]
    let item : List Token := head ++ [.group .brace inner]
    let output : List Token :=
      inner ++ head ++
        [.group .brace (checkStatement .expects .default [Token.word "x"] ++ [.group .brace []])]
    let contract : Contract := ⟨.expects, [Token.word "x"]⟩
    HostLanguage.standard.functionItem? item =
        some ⟨[], inner, [], false, head, none, .group .brace []⟩ ∧
      expand .standard .expects [Token.word "x"] item = .ok output ∧
      HostLanguage.standard.functionItem? output = none ∧
      expandAll .standard [contract, contract] item = .error .malformed := by
  refine ⟨?_, ?_, ?_, ?_⟩ <;> decide +kernel

end Attribute
end Assurance
