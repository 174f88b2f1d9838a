import Assurance.Proofs.Attribute.Stacking
import Assurance.Proofs.Source.SteadyExpression

namespace Assurance
namespace Attribute

/-!
# What attributes accept

The argument of an attribute is one condition.  The name of a tier stands before
it only if a comma follows the name at once; without the comma the name is a
condition or the beginning of one.  One comma may stand behind the condition.
The name and the commas are found through groups with invisible delimiters.

This is said here as a grammar of arguments, over what the language reads as an
expression.  The reader of arguments accepts the words of this grammar and
nothing else, so an attribute expands exactly on a word of the grammar and a
function that is not asynchronous.

Two things are asked of the language.  An expression takes tokens from the front,
and at least one.  For commas behind a condition, an expression that is read to
its last token is read in the same way before a comma.  The standard language has
both properties, since all readers of its grammar are steady.

A name of a tier that is the whole condition is the one condition that cannot be
followed by a comma: with the comma it is the name of a tier before nothing.

Main statements: `expand_accepts_iff`, `expand_append_comma`.
-/

open Source Source.Grammar

variable {host : HostLanguage}

/-- An expression takes tokens from the front, and at least one of them. -/
structure HostLanguage.Advances (host : HostLanguage) : Prop where
  takes {tokens : List Token} {tape : Tape} (read : host.expression? tokens = some tape) :
    ∃ taken, taken ≠ [] ∧ Token.shownAll tokens = taken ++ Token.shownAll tape.rest

/-- An expression ends before a comma. -/
structure HostLanguage.StopsAtComma (host : HostLanguage) : Prop where
  stops {tokens written : List Token}
    (read : host.expression? tokens = some ⟨[], written, false⟩) (joint : Bool) :
    host.expression? (tokens ++ [.punct ',' joint]) = some ⟨[.punct ',' joint], written, false⟩

theorem standard_advances : HostLanguage.standard.Advances where
  takes := expression?_takes

theorem standard_stopsAtComma : HostLanguage.standard.StopsAtComma where
  stops := expression?_comma

namespace Argument

/-- How tokens are split into a tier and the tokens of a condition. -/
inductive Splits : List Token → Tier → List Token → Prop where
  | audit {tokens more rest : List Token} {joint : Bool}
      (named : Token.Leads tokens (Token.word "audit") more)
      (comma : Token.Leads more (.punct ',' joint) rest) : Splits tokens .audit rest
  | assumed {tokens more rest : List Token} {joint : Bool}
      (named : Token.Leads tokens (Token.word "axiom") more)
      (comma : Token.Leads more (.punct ',' joint) rest) : Splits tokens .assumed rest
  | plain {tokens : List Token}
      (unnamed : ∀ name more joint rest, Token.Leads tokens (Token.word name) more →
        Token.Leads more (.punct ',' joint) rest → name ≠ "audit" ∧ name ≠ "axiom") :
      Splits tokens .default tokens

/-- Nothing but one comma. -/
def OnlyComma (tokens : List Token) : Prop := ∃ joint, Token.Leads tokens (.punct ',' joint) []

/-- One expression, of at least one token, with one comma behind it or none; and the expression as
it is written. -/
inductive OneCondition (host : HostLanguage) : List Token → List Token → Prop where
  | intro {tokens taken left condition : List Token}
      (read : host.expression? tokens = some ⟨left, condition, false⟩) (nonempty : taken ≠ [])
      (takes : Token.shownAll tokens = taken ++ Token.shownAll left)
      (ended : left = [] ∨ OnlyComma left) : OneCondition host tokens condition

/-- The grammar of arguments: a tier or none, and one condition. -/
def Written (host : HostLanguage) (tokens : List Token) (argument : Argument) : Prop :=
  ∃ rest, Splits tokens argument.tier rest ∧ OneCondition host rest argument.condition

theorem tierOfName?_eq_none {name : String} (other : name ≠ "audit" ∧ name ≠ "axiom") :
    tierOfName? name = none := by
  have audit : ("audit" == name) = false := beq_eq_false_iff_ne.mpr other.1.symm
  have assumed : ("axiom" == name) = false := beq_eq_false_iff_ne.mpr other.2.symm
  simp only [tierOfName?, Tier.name, List.find?_cons, List.find?_nil, audit, assumed]

theorem splitTier_of_splits {tokens rest : List Token} {tier : Tier}
    (splits : Splits tokens tier rest) : splitTier tokens = (tier, rest) := by
  cases splits with
  | audit named comma =>
      rw [splitTier, Token.visible_eq_cons_iff.mpr named]
      dsimp only [Token.word]
      rw [Token.visible_eq_cons_iff.mpr comma]
      rfl
  | assumed named comma =>
      rw [splitTier, Token.visible_eq_cons_iff.mpr named]
      dsimp only [Token.word]
      rw [Token.visible_eq_cons_iff.mpr comma]
      rfl
  | plain unnamed =>
      unfold splitTier
      split
      · rename_i name more named
        split
        · rename_i joint rest tier comma selected
          have other := unnamed name more joint rest (Token.visible_eq_cons_iff.mp named)
            (Token.visible_eq_cons_iff.mp comma)
          rw [tierOfName?_eq_none other] at selected
          cases selected
        · rfl
      · rfl

theorem exists_splits (tokens : List Token) : ∃ tier rest, Splits tokens tier rest := by
  by_cases tiered : ∃ tier rest, Splits tokens tier rest ∧ tier ≠ .default
  · obtain ⟨tier, rest, splits, -⟩ := tiered
    exact ⟨tier, rest, splits⟩
  · refine ⟨_, _, .plain ?_⟩
    intro name more joint rest named comma
    constructor
    · rintro rfl
      exact tiered ⟨.audit, rest, .audit named comma, nofun⟩
    · rintro rfl
      exact tiered ⟨.assumed, rest, .assumed named comma, nofun⟩

/-- What the tokens are split into is what they end in. -/
theorem Splits.suffix {tokens rest : List Token} {tier : Tier} (splits : Splits tokens tier rest) :
    Token.shownAll rest <:+ Token.shownAll tokens := by
  cases splits with
  | audit named comma => exact ⟨[_, _], by rw [named.shownAll_eq, comma.shownAll_eq]; rfl⟩
  | assumed named comma => exact ⟨[_, _], by rw [named.shownAll_eq, comma.shownAll_eq]; rfl⟩
  | plain unnamed => exact List.suffix_rfl

theorem dropComma_eq_nil_iff {tokens : List Token} :
    dropComma tokens = [] ↔ tokens = [] ∨ OnlyComma tokens := by
  constructor
  · intro dropped
    unfold dropComma at dropped
    split at dropped
    · rename_i joint rest comma
      exact Or.inr ⟨joint, dropped ▸ Token.visible_eq_cons_iff.mp comma⟩
    · exact Or.inl dropped
  · rintro (rfl | ⟨joint, comma⟩)
    · rfl
    · simp only [dropComma, Token.visible_eq_cons_iff.mpr comma]

theorem read_of_unread {tokens rest : List Token} {tier : Tier} (splits : Splits tokens tier rest)
    (unread : host.expression? rest = none) : read host tokens = .error .malformed := by
  simp only [read, splitTier_of_splits splits, unread]

/-- What the reader of arguments makes of an expression behind the tier. -/
theorem read_of_expression {tokens rest : List Token} {tier : Tier} {tape : Tape}
    (splits : Splits tokens tier rest) (found : host.expression? rest = some tape) :
    read host tokens =
      if dropComma tape.rest ≠ [] then .error .severalConditions
      else if tape.leftOver then .error .malformed
      else .ok ⟨tier, tape.written⟩ := by
  simp only [read, splitTier_of_splits splits, found, Bool.not_eq_true', ne_eq,
    List.isEmpty_eq_false_iff]

/-- An argument that is accepted has been read as an expression to its end, or up to one comma. -/
theorem expression_of_read {tokens rest : List Token} {tier : Tier} {argument : Argument}
    (splits : Splits tokens tier rest) (accepted : read host tokens = .ok argument) :
    argument.tier = tier ∧ ∃ left, host.expression? rest = some ⟨left, argument.condition, false⟩ ∧
      (left = [] ∨ OnlyComma left) := by
  cases found : host.expression? rest with
  | none =>
      rw [read_of_unread splits found] at accepted
      cases accepted
  | some tape =>
      rw [read_of_expression splits found] at accepted
      split at accepted
      · cases accepted
      · rename_i ended
        split at accepted
        · cases accepted
        · rename_i whole
          cases accepted
          rcases tape with ⟨left, condition, leftOver⟩
          obtain rfl : leftOver = false := by simpa using whole
          exact ⟨rfl, left, rfl, dropComma_eq_nil_iff.mp (not_not.mp ended)⟩

/-- The reader of arguments accepts the words of the grammar. -/
theorem read_eq_ok_iff (advances : host.Advances) {tokens : List Token} {argument : Argument} :
    read host tokens = .ok argument ↔ Written host tokens argument := by
  constructor
  · intro accepted
    rcases exists_splits tokens with ⟨tier, rest, splits⟩
    obtain ⟨rfl, left, found, ended⟩ := expression_of_read splits accepted
    obtain ⟨taken, nonempty, takes⟩ := advances.takes found
    exact ⟨rest, splits, .intro found nonempty takes ended⟩
  · rintro ⟨rest, splits, one⟩
    obtain ⟨found, -, -, ended⟩ := one
    rw [read_of_expression splits found, if_neg (not_not.mpr (dropComma_eq_nil_iff.mpr ended))]
    rfl

/-- More than one condition was given if something other than one comma stands behind the first. -/
theorem read_eq_severalConditions_iff {tokens : List Token} :
    read host tokens = .error .severalConditions ↔
      ∃ tier rest tape, Splits tokens tier rest ∧ host.expression? rest = some tape ∧
        tape.rest ≠ [] ∧ ¬ OnlyComma tape.rest := by
  have more {tokens : List Token} : dropComma tokens ≠ [] ↔ tokens ≠ [] ∧ ¬ OnlyComma tokens := by
    rw [ne_eq, dropComma_eq_nil_iff, not_or]
  constructor
  · intro rejected
    rcases exists_splits tokens with ⟨tier, rest, splits⟩
    cases found : host.expression? rest with
    | none =>
        rw [read_of_unread splits found] at rejected
        cases rejected
    | some tape =>
        rw [read_of_expression splits found] at rejected
        split at rejected
        · rename_i several
          exact ⟨tier, rest, tape, splits, found, more.mp several⟩
        · split at rejected <;> cases rejected
  · rintro ⟨tier, rest, tape, splits, found, several⟩
    rw [read_of_expression splits found]
    exact if_pos (more.mpr several)

end Argument

open Argument

/-- The function that an attribute with a tier calls to make its check. -/
def calledFunction : Kind → Tier → String
  | .expects, .default => "expects_at"
  | .expects, .audit => "expects_audit_at"
  | .expects, .assumed => "expects_axiom_at"
  | .ensures, .default => "ensures_at"
  | .ensures, .audit => "ensures_audit_at"
  | .ensures, .assumed => "ensures_axiom_at"

/-- Two colons. -/
def colons : List Token := [.punct ':' true, .punct ':' false]

/-- The statement that calls a function of checks with a condition and the place of the call. -/
def callStatement (called : String) (condition : List Token) : List Token :=
  let place := colons ++ [Token.word "guardrail"] ++ colons ++
    [Token.word "here", .punct '!' false, .group .parenthesis []]
  colons ++ [Token.word "guardrail"] ++ colons ++ [Token.word "contract"] ++ colons ++
    [Token.word called, .group .parenthesis (condition ++ [.punct ',' false] ++ place),
     .punct ';' false]

theorem checkStatement_eq (kind : Kind) (tier : Tier) (condition : List Token) :
    checkStatement kind tier condition = callStatement (calledFunction kind tier) condition := by
  have named : checkName kind tier = calledFunction kind tier := by
    cases kind <;> cases tier <;> decide +kernel
  rw [checkStatement, named]
  rfl

/-- What the braces of an expanded function hold, given the statement that makes the check. -/
def aroundBlock (kind : Kind) (function : FunctionItem) (check : List Token) : List Token :=
  match kind with
  | .expects => check ++ [function.block]
  | .ensures => resultStatement function.result function.block ++ check ++ [Token.word "ret"]

theorem attached_clause (kind : Kind) (argument : Argument) (function : FunctionItem) :
    attached function (kind.clause argument) =
      function.outerAttributes ++ function.innerAttributes ++ function.visibility ++
        function.signature ++ [.group .brace (aroundBlock kind function
          (callStatement (calledFunction kind argument.tier) argument.condition))] := by
  cases kind with
  | expects => rw [attached, aroundBlock, ← checkStatement_eq]; rfl
  | ensures => rw [attached, aroundBlock, ← checkStatement_eq]; rfl

/-! ## Expansion -/

theorem expand_of_read_error {kind : Kind} {tokens item : List Token} {rejection : Rejection}
    (rejected : Argument.read host tokens = .error rejection) :
    expand host kind tokens item = .error rejection := by
  simp only [expand, rejected, bind, Except.bind]

theorem expand_of_no_function {kind : Kind} {tokens item : List Token} {argument : Argument}
    (accepted : Argument.read host tokens = .ok argument)
    (unread : host.functionItem? item = none) :
    expand host kind tokens item = .error .malformed := by
  simp only [expand, accepted, unread, bind, Except.bind]

theorem expand_eq_ok_iff (advances : host.Advances) {kind : Kind} {tokens item output : List Token} :
    expand host kind tokens item = .ok output ↔
      ∃ argument function, Written host tokens argument ∧
        host.functionItem? item = some function ∧ function.isAsync = false ∧
        output = attached function (kind.clause argument) := by
  constructor
  · intro expanded
    cases readArgument : Argument.read host tokens with
    | error rejection =>
        rw [expand_of_read_error readArgument] at expanded
        cases expanded
    | ok argument =>
        cases readItem : host.functionItem? item with
        | none => exact absurd expanded (expand_ne_ok readItem output)
        | some function =>
            rw [expand_apply readArgument readItem] at expanded
            split at expanded
            · cases expanded
            · rename_i waits
              cases expanded
              exact ⟨argument, function, (read_eq_ok_iff advances).mp readArgument, rfl,
                by simpa using waits, rfl⟩
  · rintro ⟨argument, function, written, readItem, waits, rfl⟩
    exact expand_eq_ok ((read_eq_ok_iff advances).mpr written) readItem waits

theorem expand_eq_severalConditions_iff {kind : Kind} {tokens item : List Token} :
    expand host kind tokens item = .error .severalConditions ↔
      Argument.read host tokens = .error .severalConditions := by
  cases readArgument : Argument.read host tokens with
  | error rejection => rw [expand_of_read_error readArgument, Except.error.injEq, Except.error.injEq]
  | ok argument =>
      refine ⟨fun rejected => ?_, nofun⟩
      cases readItem : host.functionItem? item with
      | none =>
          rw [expand_of_no_function readArgument readItem] at rejected
          cases rejected
      | some function =>
          rw [expand_apply readArgument readItem] at rejected
          split at rejected <;> cases rejected

/-- An attribute expands on a function that is not asynchronous, if its argument is a word of the
grammar, and on nothing else.  What it writes is the function with new braces in which the check is
made: by the function of its kind and tier, with the condition that was read.  Everything else is
rejected, with the message about several conditions exactly if something other than one comma stands
behind the first one. -/
theorem expand_accepts_iff (advances : host.Advances) (kind : Kind) (tokens item : List Token) :
    (∀ output, expand host kind tokens item = .ok output ↔
      ∃ argument function, Written host tokens argument ∧
        host.functionItem? item = some function ∧ function.isAsync = false ∧
        output = function.outerAttributes ++ function.innerAttributes ++ function.visibility ++
          function.signature ++ [.group .brace (aroundBlock kind function
            (callStatement (calledFunction kind argument.tier) argument.condition))]) ∧
    (¬ ((∃ argument, Written host tokens argument) ∧
        ∃ function, host.functionItem? item = some function ∧ function.isAsync = false) →
      ∃ rejection, expand host kind tokens item = .error rejection) ∧
    (expand host kind tokens item = .error .severalConditions ↔
      ∃ tier rest tape, Splits tokens tier rest ∧ host.expression? rest = some tape ∧
        tape.rest ≠ [] ∧ ¬ OnlyComma tape.rest) := by
  refine ⟨?_, ?_, expand_eq_severalConditions_iff.trans read_eq_severalConditions_iff⟩
  · intro output
    simp only [expand_eq_ok_iff advances, attached_clause]
  · intro outside
    cases expanded : expand host kind tokens item with
    | error rejection => exact ⟨rejection, rfl⟩
    | ok output =>
        rcases (expand_eq_ok_iff advances).mp expanded with
          ⟨argument, function, written, readItem, waits, -⟩
        exact absurd ⟨⟨argument, written⟩, function, readItem, waits⟩ outside

/-- A tier before a condition and a comma behind it, where a macro has put the name of the tier into
a group. -/
theorem expand_accepts_tier :
    let block : Token := .group .brace [.literal "1"]
    let ready : List Token := [Token.word "ready"]
    let tier : Token := .group .invisible [Token.word "axiom"]
    expand .standard .expects ([tier, Token.mark ','] ++ ready ++ [Token.mark ',']) sampleItem =
      .ok (sampleHead ++ [.group .brace (callStatement "expects_axiom_at" ready ++ [block])]) := by
  intro block ready tier
  have read : HostLanguage.standard.expression? (ready ++ [Token.mark ',']) =
      some ⟨[Token.mark ','], ready, false⟩ := by decide +kernel
  have one : OneCondition .standard (ready ++ [Token.mark ',']) ready :=
    .intro read (List.cons_ne_nil _ _) rfl (Or.inr ⟨false, .here (Token.isSeen_punct _ _) []⟩)
  have splits : Splits ([tier, Token.mark ','] ++ ready ++ [Token.mark ',']) .assumed
      (ready ++ [Token.mark ',']) :=
    .assumed (.opened (.here (Token.isSeen_word _) _)) (.here (Token.isSeen_punct _ _) _)
  exact ((expand_accepts_iff standard_advances .expects _ _).1 _).mpr
    ⟨⟨.assumed, ready⟩, _, ⟨_, splits, one⟩, functionItem?_sample, rfl, rfl⟩

/-! ## A comma behind a condition -/

/-- Tokens of which the last one that is seen is a comma. -/
def EndsInComma (tokens : List Token) : Prop :=
  ∃ front joint, Token.shownAll tokens = front ++ [.punct ',' joint]

/-- Tokens of which nothing is seen but the name of a tier. -/
def OnlyTier (tokens : List Token) : Prop :=
  Token.shownAll tokens = [Token.word "audit"] ∨ Token.shownAll tokens = [Token.word "axiom"]

instance (tokens : List Token) : Decidable (OnlyTier tokens) :=
  inferInstanceAs (Decidable (_ ∨ _))

theorem not_endsInComma_of_word {tokens : List Token} {name : String}
    (last : (Token.shownAll tokens).getLast? = some (Token.word name)) : ¬ EndsInComma tokens := by
  rintro ⟨front, joint, shown⟩
  rw [shown, List.getLast?_concat] at last
  exact absurd (Option.some.inj last) nofun

theorem EndsInComma.of_suffix {tokens rest : List Token} (ended : EndsInComma rest)
    (suffix : Token.shownAll rest <:+ Token.shownAll tokens) : EndsInComma tokens := by
  obtain ⟨front, joint, shown⟩ := ended
  obtain ⟨earlier, same⟩ := suffix
  exact ⟨earlier ++ front, joint, by rw [← same, shown, List.append_assoc]⟩

theorem Argument.OneCondition.shownAll_ne_nil {tokens condition : List Token}
    (one : OneCondition host tokens condition) : Token.shownAll tokens ≠ [] := by
  obtain ⟨-, nonempty, takes, -⟩ := one
  rw [takes]
  exact List.append_ne_nil_of_left_ne_nil nonempty _

theorem Argument.OneCondition.before_comma (stops : host.StopsAtComma) {tokens condition : List Token}
    (one : OneCondition host tokens condition) (unended : ¬ EndsInComma tokens) (joint : Bool) :
    OneCondition host (tokens ++ [.punct ',' joint]) condition := by
  obtain ⟨read, nonempty, takes, ended⟩ := one
  rcases ended with rfl | ⟨found, comma⟩
  · refine .intro (stops.stops read joint) nonempty ?_
      (Or.inr ⟨joint, .here (Token.isSeen_punct _ _) []⟩)
    rw [Token.shownAll_append, takes, Token.shownAll, List.append_nil]
  · rw [comma.shownAll_eq] at takes
    exact absurd ⟨_, found, takes⟩ unended

/-- Tokens that are not the name of a tier keep their tier before a comma. -/
theorem Argument.Splits.before_comma {tokens rest : List Token} {tier : Tier}
    (splits : Splits tokens tier rest) (nonempty : Token.shownAll rest ≠ [])
    (unnamed : ¬ OnlyTier tokens) (joint : Bool) :
    Splits (tokens ++ [.punct ',' joint]) tier (rest ++ [.punct ',' joint]) := by
  cases splits with
  | audit named comma => exact .audit (named.append _) (comma.append _)
  | assumed named comma => exact .assumed (named.append _) (comma.append _)
  | plain earlier =>
      refine .plain ?_
      intro name more second behind named comma
      -- A new comma makes the name of a tier only if it comes second, behind a single token.
      obtain ⟨first, tail, shown⟩ := List.exists_cons_of_ne_nil nonempty
      obtain ⟨left, leads, shownLeft⟩ := Token.shownAll_eq_cons_iff.mp shown
      obtain ⟨rfl, rfl⟩ := (leads.append [.punct ',' joint]).right_unique named
      cases tail with
      | nil =>
          constructor
          · rintro rfl
            exact unnamed (Or.inl shown)
          · rintro rfl
            exact unnamed (Or.inr shown)
      | cons next tail =>
          obtain ⟨further, leadsNext, -⟩ := Token.shownAll_eq_cons_iff.mp shownLeft
          obtain ⟨rfl, -⟩ := (leadsNext.append [.punct ',' joint]).right_unique comma
          exact earlier name left second further leads leadsNext

/-- A comma behind the name of a tier splits the tokens into the tier and nothing. -/
theorem OnlyTier.splits {tokens : List Token} (named : OnlyTier tokens) (joint : Bool) :
    ∃ tier, Splits (tokens ++ [.punct ',' joint]) tier [] := by
  have comma {hidden : List Token} (nothing : Token.shownAll hidden = []) :
      Token.Leads (hidden ++ [.punct ',' joint]) (.punct ',' joint) [] :=
    Token.Leads.behind (.here (Token.isSeen_punct _ _) []) nothing
  rcases named with shown | shown
  · obtain ⟨left, leads, nothing⟩ := Token.shownAll_eq_cons_iff.mp shown
    exact ⟨.audit, .audit (leads.append _) (comma nothing)⟩
  · obtain ⟨left, leads, nothing⟩ := Token.shownAll_eq_cons_iff.mp shown
    exact ⟨.assumed, .assumed (leads.append _) (comma nothing)⟩

/-- An argument that is accepted and does not end in a comma is accepted with a comma too, and the
attribute expands to the same function.  The name of a tier that is the whole argument is the one
exception: as a condition it is accepted, and with the comma it is a tier without a condition. -/
theorem expand_append_comma (advances : host.Advances) (stops : host.StopsAtComma) {kind : Kind}
    {tokens item output : List Token} (accepted : expand host kind tokens item = .ok output)
    (unended : ¬ EndsInComma tokens) (joint : Bool) :
    expand host kind (tokens ++ [.punct ',' joint]) item =
      if OnlyTier tokens then .error .malformed else .ok output := by
  -- What is left behind the name of a tier that was the whole argument.
  have nothing : host.expression? [] = none := by
    refine Option.eq_none_iff_forall_ne_some.mpr fun tape read => ?_
    obtain ⟨taken, nonempty, empty⟩ := advances.takes read
    exact nonempty (List.append_eq_nil_iff.mp empty.symm).1
  split
  · rename_i named
    obtain ⟨tier, splits⟩ := named.splits joint
    exact expand_of_read_error (read_of_unread splits nothing)
  · rename_i unnamed
    obtain ⟨argument, function, ⟨rest, splits, one⟩, readItem, waits, rfl⟩ :=
      (expand_eq_ok_iff advances).mp accepted
    have unendedRest : ¬ EndsInComma rest := fun ended => unended (ended.of_suffix splits.suffix)
    exact (expand_eq_ok_iff advances).mpr ⟨argument, function,
      ⟨_, splits.before_comma one.shownAll_ne_nil unnamed joint,
        one.before_comma stops unendedRest joint⟩, readItem, waits, rfl⟩

/-- The name of a tier as a condition behind a tier. -/
theorem expand_append_comma_tiered :
    let tokens : List Token := [Token.word "audit", Token.mark ',', Token.word "audit"]
    ∃ output, expand .standard .ensures tokens sampleItem = .ok output ∧
      expand .standard .ensures (tokens ++ [Token.mark ',']) sampleItem = .ok output := by
  intro tokens
  have read : Argument.read .standard tokens = .ok ⟨.audit, [Token.word "audit"]⟩ := by
    decide +kernel
  have accepted : expand .standard .ensures tokens sampleItem = .ok
      (attached sampleFunction (.exit .audit [Token.word "audit"])) :=
    expand_eq_ok read functionItem?_sample rfl
  have unended : ¬ EndsInComma tokens := not_endsInComma_of_word rfl
  have unnamed : ¬ OnlyTier tokens := by
    rintro (same | same) <;> exact absurd (congrArg List.length same) (by decide)
  have same := expand_append_comma standard_advances standard_stopsAtComma accepted unended false
  rw [if_neg unnamed] at same
  exact ⟨_, accepted, same⟩

/-- The name of a tier as the whole argument, without a comma and with one. -/
theorem expand_append_comma_bare_tier :
    let item : List Token :=
      [Token.word "fn", Token.word "f", .group .parenthesis [], .group .brace []]
    let bare : List Token := [Token.word "audit"]
    ¬ EndsInComma bare ∧
      expand .standard .expects bare item = .ok
        [Token.word "fn", Token.word "f", .group .parenthesis [],
          .group .brace (callStatement "expects_at" bare ++ [.group .brace []])] ∧
      expand .standard .expects (bare ++ [Token.mark ',']) item = .error .malformed := by
  refine ⟨not_endsInComma_of_word rfl, ?_, ?_⟩
  · decide +kernel
  · decide +kernel

end Attribute
end Assurance
