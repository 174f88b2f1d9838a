import Assurance.Proofs.Source.Shown

namespace Assurance
namespace Source

/-!
# Looking ahead before a comma

What a view sees depends on the tokens that come next.  A comma behind the last
token makes a difference only to a view that looks for a comma, or for the end.
Most views do neither: they overlook such a comma.

Some views say where a list stops.  These see the comma if nothing else is left,
and overlook it otherwise.
-/

open Tokens Token

namespace Tokens

variable {tokens rest : List Token} {joint : Bool}

theorem visible_append {first : Token} (begins : visible tokens = first :: rest)
    (more : List Token) : visible (tokens ++ more) = first :: (rest ++ more) :=
  Token.visible_eq_cons_iff.mpr ((Token.visible_eq_cons_iff.mp begins).append more)

theorem visible_comma (tokens : List Token) (joint : Bool) :
    visible (tokens ++ [.punct ',' joint]) = visible tokens ++ [.punct ',' joint] := by
  cases begins : visible tokens with
  | nil =>
      have comma := Leads.here (isSeen_punct ',' joint) []
      exact Token.visible_eq_cons_iff.mpr (comma.behind (Token.visible_eq_nil_iff.mp begins))
  | cons first rest => exact visible_append begins _

/-- Behind the last token there is nothing to skip. -/
theorem skip_comma (tokens : List Token) (joint : Bool) :
    skip (tokens ++ [.punct ',' joint]) = skip tokens ∨
      skip (tokens ++ [.punct ',' joint]) = skip tokens ++ [.punct ',' joint] := by
  unfold skip
  rw [visible_comma]
  cases visible tokens with
  | nil => exact Or.inl rfl
  | cons first rest =>
      right
      cases rest <;> split <;> split <;> grind

/-- At most two tokens are skipped. -/
theorem shownAll_le_skip (tokens : List Token) :
    (shownAll tokens).length ≤ (shownAll (skip tokens)).length + 2 := by
  cases begins : visible tokens with
  | nil =>
      rw [Token.visible_eq_nil_iff.mp begins]
      exact Nat.zero_le _
  | cons first rest =>
      simp only [skip, begins, (Token.visible_eq_cons_iff.mp begins).shownAll_eq]
      split
      · rename_i same
        obtain ⟨rfl, rfl⟩ := List.cons_eq_cons.mp same
        exact Nat.le_refl _
      · rename_i same
        obtain ⟨rfl, rfl⟩ := List.cons_eq_cons.mp same
        exact Nat.le_succ _
      · rename_i same
        cases same

/-- A view that sees the same with a comma behind the last token. -/
class Overlooks (view : List Token → Bool) : Prop where
  overlooks (tokens : List Token) (joint : Bool) : view (tokens ++ [.punct ',' joint]) = view tokens

/-- A view that sees the same with a comma behind the last token, if there is one to be seen. -/
class OverlooksBehind (view : List Token → Bool) : Prop where
  overlooks {tokens : List Token} (more : shownAll tokens ≠ []) (joint : Bool) :
    view (tokens ++ [.punct ',' joint]) = view tokens

/-- A view that sees a comma if it comes next. -/
class SeesComma (view : List Token → Bool) : Prop where
  sees {tokens : List Token} (nothing : shownAll tokens = []) (joint : Bool) :
    view (tokens ++ [.punct ',' joint]) = true

theorem overlooks (view : List Token → Bool) [blind : Overlooks view] (tokens : List Token)
    (joint : Bool) : view (tokens ++ [.punct ',' joint]) = view tokens :=
  blind.overlooks tokens joint

section Views

variable {first second : List Token → Bool} [Overlooks first] [Overlooks second]

instance : Overlooks fun tokens => first tokens && second tokens where
  overlooks tokens joint := by rw [overlooks first, overlooks second]

instance : Overlooks fun tokens => first tokens || second tokens where
  overlooks tokens joint := by rw [overlooks first, overlooks second]

instance : Overlooks fun tokens => !first tokens where
  overlooks tokens joint := by rw [overlooks first]

instance (seen : Bool) : Overlooks fun _ => seen where
  overlooks _ _ := rfl

instance overlooks_skip : Overlooks fun tokens => first (skip tokens) where
  overlooks tokens joint := by
    rcases skip_comma tokens joint with same | longer
    · rw [same]
    · rw [longer, overlooks first]

-- Which view stands behind two skips is not found by unification.
instance overlooks_skip_skip : Overlooks fun tokens => first (skip (skip tokens)) :=
  @overlooks_skip (fun tokens => first (skip tokens)) inferInstance

instance : Overlooks fun tokens => first (skipTwo tokens) := overlooks_skip_skip

instance : OverlooksBehind first where
  overlooks _ := overlooks first _

instance : OverlooksBehind List.isEmpty where
  overlooks {tokens} more joint := by
    cases tokens with
    | nil => exact absurd rfl more
    | cons token tokens => rfl

section Stops

variable {stops others : List Token → Bool}

instance [one : OverlooksBehind stops] [other : OverlooksBehind others] :
    OverlooksBehind fun tokens => stops tokens || others tokens where
  overlooks more joint := by
    rw [one.overlooks more, other.overlooks more]

instance [comma : SeesComma stops] : SeesComma fun tokens => stops tokens || others tokens where
  sees nothing joint := by
    rw [comma.sees nothing, Bool.true_or]

instance [comma : SeesComma others] : SeesComma fun tokens => stops tokens || others tokens where
  sees nothing joint := by
    rw [comma.sees nothing, Bool.or_true]

end Stops

end Views

/-- A view overlooks a comma behind a token that is skipped. -/
theorem overlooks_behind_skip {view : List Token → Bool} [behind : OverlooksBehind view]
    (more : shownAll (skip tokens) ≠ []) (joint : Bool) :
    view (skip (tokens ++ [.punct ',' joint])) = view (skip tokens) := by
  rcases skip_comma tokens joint with same | longer
  · rw [same]
  · rw [longer, behind.overlooks more]

theorem afterChar?_comma {char : Char} (plain : char ≠ ',') (last : Bool) (tokens : List Token)
    (joint : Bool) :
    afterChar? char last (tokens ++ [.punct ',' joint]) =
      (afterChar? char last tokens).map (· ++ [.punct ',' joint]) := by
  unfold afterChar?
  rw [visible_comma]
  cases visible tokens with
  | nil => simp [plain.symm]
  | cons first rest =>
      cases first with
      | punct found joined =>
          rw [apply_ite (Option.map _)]
          rfl
      | _ => rfl

theorem afterChar?_append {char : Char} {last : Bool}
    (found : afterChar? char last tokens = some rest) (more : List Token) :
    afterChar? char last (tokens ++ more) = some (rest ++ more) := by
  unfold afterChar? at found ⊢
  cases begins : visible tokens with
  | nil =>
      rw [begins] at found
      cases found
  | cons first left =>
      rw [begins] at found
      rw [visible_append begins]
      cases first with
      | punct char' joined =>
          simp only [Option.ite_none_right_eq_some, Option.some.injEq] at found ⊢
          exact ⟨found.1, by rw [found.2]⟩
      | _ => cases found

theorem exists_of_afterChar? {char : Char} {last : Bool}
    (found : afterChar? char last tokens = some rest) :
    ∃ first, shownAll tokens = first :: shownAll rest := by
  unfold afterChar? at found
  split at found
  · rename_i begins
    obtain ⟨-, rfl⟩ : _ ∧ _ = rest := by simpa using found
    exact ⟨_, (Token.visible_eq_cons_iff.mp begins).shownAll_eq⟩
  · cases found

/-- An operator takes tokens from the front. -/
theorem exists_of_afterOperator? {chars : List Char}
    (found : afterOperator? chars tokens = some rest) :
    ∃ first more, shownAll tokens = first :: more ++ shownAll rest := by
  induction chars generalizing tokens with
  | nil => cases found
  | cons char chars inductionHypothesis =>
      cases chars with
      | nil =>
          obtain ⟨first, shown⟩ := exists_of_afterChar? found
          exact ⟨first, [], shown⟩
      | cons next chars =>
          obtain ⟨between, begins, others⟩ := Option.bind_eq_some_iff.mp found
          obtain ⟨first, shown⟩ := exists_of_afterChar? begins
          obtain ⟨second, more, shownMore⟩ := inductionHypothesis others
          exact ⟨first, second :: more, by rw [shown, shownMore]; rfl⟩

theorem operatorNext_of_nothing (text : String) (nothing : shownAll tokens = []) :
    operatorNext text tokens = false := by
  cases found : afterOperator? text.toList tokens with
  | none => rw [operatorNext, found]; rfl
  | some rest =>
      obtain ⟨first, more, shown⟩ := exists_of_afterOperator? found
      rw [nothing] at shown
      cases shown

theorem afterOperator?_append {chars : List Char} (found : afterOperator? chars tokens = some rest)
    (more : List Token) : afterOperator? chars (tokens ++ more) = some (rest ++ more) := by
  induction chars generalizing tokens with
  | nil => cases found
  | cons char chars inductionHypothesis =>
      cases chars with
      | nil => exact afterChar?_append found more
      | cons next chars =>
          obtain ⟨between, first, others⟩ := Option.bind_eq_some_iff.mp found
          exact Option.bind_eq_some_iff.mpr
            ⟨_, afterChar?_append first more, inductionHypothesis others⟩

theorem afterOperator?_comma {chars : List Char} (plain : ',' ∉ chars) (tokens : List Token)
    (joint : Bool) :
    afterOperator? chars (tokens ++ [.punct ',' joint]) =
      (afterOperator? chars tokens).map (· ++ [.punct ',' joint]) := by
  induction chars generalizing tokens with
  | nil => rfl
  | cons char chars inductionHypothesis =>
      obtain ⟨other, others⟩ := List.ne_and_not_mem_of_not_mem_cons plain
      cases chars with
      | nil => exact afterChar?_comma other.symm true tokens joint
      | cons next chars =>
          change (afterChar? char false _).bind _ = ((afterChar? char false tokens).bind _).map _
          rw [afterChar?_comma other.symm]
          cases afterChar? char false tokens with
          | none => rfl
          | some rest => exact inductionHypothesis others rest

instance : OverlooksBehind (operatorNext ",") where
  overlooks {tokens} more joint := by
    obtain ⟨first, shown, begins⟩ := List.exists_cons_of_ne_nil more
    obtain ⟨rest, leads, -⟩ := Token.shownAll_eq_cons_iff.mp begins
    have begun := Token.visible_eq_cons_iff.mpr leads
    change (afterChar? ',' true _).isSome = (afterChar? ',' true _).isSome
    simp only [afterChar?, begun, visible_append begun]
    cases first with
    | punct char joint' => simp only [apply_ite Option.isSome, Option.isSome_some]
    | _ => rfl

instance : SeesComma (operatorNext ",") where
  sees {tokens} nothing joint := by
    have comma : Leads (tokens ++ [.punct ',' joint]) (.punct ',' joint) [] :=
      (Leads.here (isSeen_punct ',' joint) []).behind nothing
    change (afterChar? ',' true _).isSome = true
    simp [afterChar?, Token.visible_eq_cons_iff.mpr comma]

/-- An operator in which there is no comma. -/
theorem overlooks_operatorNext {text : String} (plain : ',' ∉ text.toList) :
    Overlooks (operatorNext text) where
  overlooks tokens joint := by
    rw [operatorNext, operatorNext, afterOperator?_comma plain, Option.isSome_map]

instance (name : String) : Overlooks (wordNext name) where
  overlooks tokens joint := by
    rw [wordNext, wordNext, visible_comma]
    cases visible tokens <;> grind

instance (names : List String) : Overlooks (oneOfWordsNext names) where
  overlooks tokens joint := by simp only [oneOfWordsNext, overlooks (wordNext _)]

instance : Overlooks nameNext where
  overlooks tokens joint := by
    rw [nameNext, nameNext, visible_comma]
    cases visible tokens <;> grind

instance : Overlooks anyWordNext where
  overlooks tokens joint := by
    rw [anyWordNext, anyWordNext, visible_comma]
    cases visible tokens <;> grind

instance : Overlooks lifetimeNext where
  overlooks tokens joint := by
    rw [lifetimeNext, lifetimeNext, visible_comma]
    cases visible tokens with
    | nil => rfl
    | cons first rest =>
        have further := overlooks anyWordNext rest joint
        grind

instance (delimiter : Delimiter) : Overlooks (groupNext delimiter) where
  overlooks tokens joint := by
    rw [groupNext, groupNext, groupsOf, groupsOf, visible_comma]
    cases tokens <;> cases visible _ <;> grind

instance : Overlooks anyGroupNext where
  overlooks tokens joint := by
    rw [anyGroupNext, anyGroupNext, visible_comma]
    cases visible tokens <;> grind

instance : Overlooks literalTokenNext where
  overlooks tokens joint := by
    rw [literalTokenNext, literalTokenNext, visible_comma]
    cases visible tokens <;> grind

instance : Overlooks numberNext where
  overlooks tokens joint := by
    rw [numberNext, numberNext, visible_comma]
    cases visible tokens <;> grind

instance : Overlooks literalNext where
  overlooks tokens joint := by
    rw [literalNext, literalNext, visible_comma]
    cases visible tokens with
    | nil => rfl
    | cons first rest =>
        have further := overlooks numberNext rest joint
        grind

instance : Overlooks textNext where
  overlooks tokens joint := by
    rw [textNext, textNext, visible_comma]
    cases visible tokens <;> grind

/-- A keyword that comes next is the first token to be seen. -/
theorem visible_of_wordNext {name : String} (begins : wordNext name tokens = true) :
    visible tokens = Token.word name :: skip tokens := by
  unfold wordNext at begins
  split at begins
  · rename_i found rest front
    obtain rfl : found = name := by simpa using begins
    simp only [skip, front, Token.word]
  · cases begins

theorem wordNext_of_word {name other : String} (front : visible tokens = Token.word name :: rest)
    (different : other ≠ name) : wordNext other tokens = false := by
  simp only [wordNext, front, Token.word, beq_eq_false_iff_ne.mpr different.symm]

theorem operatorNext_of_word {name : String} (front : visible tokens = Token.word name :: rest)
    (text : String) : operatorNext text tokens = false := by
  have other (char : Char) (last : Bool) : afterChar? char last tokens = none := by
    simp only [afterChar?, front, Token.word]
  rw [operatorNext]
  rcases text.toList with _ | ⟨char, _ | ⟨next, chars⟩⟩
  · rfl
  · rw [afterOperator?, other]
    rfl
  · rw [afterOperator?, other]
    · rfl
    · exact List.cons_ne_nil _ _

theorem visible_of_openNext (opens : operatorNext "<" tokens = true) :
    ∃ joint, visible tokens = .punct '<' joint :: skip tokens := by
  change (afterChar? '<' true tokens).isSome = true at opens
  unfold afterChar? at opens
  split at opens
  · rename_i found joint rest front
    obtain rfl : found = '<' := by
      by_contra other
      rw [if_neg fun same => other same.1] at opens
      cases opens
    exact ⟨joint, by rw [skip, front]; rfl⟩
  · cases opens

end Tokens

/-! ## Places in front of a comma -/

namespace Token

mutual

theorem before_succ (place behind : Nat) : ∀ token : Token,
    before (place + 1) (behind + 1) token = before place behind token
  | .group .invisible inner => by
      simp only [before, Nat.add_le_add_iff_right, beforeAll_succ place behind inner]
  | .group .parenthesis _ => rfl
  | .group .bracket _ => rfl
  | .group .brace _ => rfl
  | .ident .. => rfl
  | .punct .. => rfl
  | .literal _ => rfl

theorem beforeAll_succ (place behind : Nat) : ∀ tokens : List Token,
    beforeAll (place + 1) (behind + 1) tokens = beforeAll place behind tokens
  | [] => rfl
  | token :: tokens => by
      simp only [beforeAll, ← Nat.add_assoc, Nat.add_le_add_iff_right,
        before_succ place _ token, beforeAll_succ place behind tokens]

end

theorem sizeAll_comma (tokens : List Token) (joint : Bool) :
    sizeAll (tokens ++ [.punct ',' joint]) = sizeAll tokens + 1 := by
  rw [sizeAll_append]
  rfl

/-- What stands before a place is the same if a comma stands behind everything. -/
theorem beforeAll_comma (place : Nat) (tokens : List Token) (joint : Bool) :
    beforeAll (place + 1) 0 (tokens ++ [.punct ',' joint]) = beforeAll place 0 tokens := by
  induction tokens with
  | nil => simp [beforeAll, sizeAll, size]
  | cons token tokens inductionHypothesis =>
      have reached : sizeAll tokens + 1 + size token ≤ place + 1 ↔
          sizeAll tokens + size token ≤ place := by omega
      simp only [List.cons_append, beforeAll, sizeAll, sizeAll_comma, inductionHypothesis,
        Nat.add_zero, before_succ]
      exact if_congr reached rfl rfl

end Token

end Source
end Assurance
