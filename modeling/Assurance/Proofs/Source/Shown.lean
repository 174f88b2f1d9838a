import Assurance.Source.Reader
import Mathlib.Data.List.Basic
import Mathlib.Data.Nat.Init

namespace Assurance
namespace Source
namespace Token

/-!
# Tokens that are seen

A group with invisible delimiters is seen through, so what is seen of a list of
tokens is the list with these groups dissolved.  Which token is seen first, and
what is left behind it, is a relation here; looking ahead agrees with it.

Where a list begins with a group to be seen through, its tokens may as well stand
in front of the rest.  All proofs below go along this: the first token is seen, or
the list is replaced by one with fewer groups.

Main statements: `visible_eq_cons_iff`, `shownAll_eq_cons_iff`.
-/

open Tokens

mutual

/-- What is seen of a token. -/
def shown : Token → List Token
  | .group .invisible inner => shownAll inner
  | token => [token]

/-- What is seen of a list of tokens. -/
def shownAll : List Token → List Token
  | [] => []
  | token :: tokens => shown token ++ shownAll tokens

end

/-- A token that is seen itself. -/
def IsSeen (token : Token) : Prop := ∀ inner, token ≠ .group .invisible inner

/-- A token is the first one to be seen, and something is left behind it. -/
inductive Leads : List Token → Token → List Token → Prop where
  | here {token : Token} (seen : IsSeen token) (rest : List Token) :
      Leads (token :: rest) token rest
  | opened {inner rest left : List Token} {first : Token}
      (leads : Leads (inner ++ rest) first left) :
      Leads (.group .invisible inner :: rest) first left

theorem isSeen_word (name : String) : IsSeen (word name) := nofun

theorem isSeen_punct (char : Char) (joint : Bool) : IsSeen (.punct char joint) := nofun

theorem sizeAll_append (front back : List Token) :
    sizeAll (front ++ back) = sizeAll front + sizeAll back := by
  induction front with
  | nil => simp [sizeAll]
  | cons token front inductionHypothesis =>
      simp only [List.cons_append, sizeAll, inductionHypothesis]
      omega

theorem weightAll_append (front back : List Token) :
    weightAll (front ++ back) = weightAll front + weightAll back := by
  induction front with
  | nil => simp [weightAll]
  | cons token front inductionHypothesis =>
      simp only [List.cons_append, weightAll, inductionHypothesis]
      omega

theorem size_pos (token : Token) : 0 < size token := by
  cases token <;> simp [size]

/-- Taking tokens leaves fewer. -/
theorem sizeAll_lt_append {taken : List Token} (some : taken ≠ []) (rest : List Token) :
    sizeAll rest < sizeAll (taken ++ rest) := by
  obtain ⟨token, taken, rfl⟩ := List.exists_cons_of_ne_nil some
  have := size_pos token
  rw [sizeAll_append, sizeAll]
  omega

/-- Tokens are seen one after the other, and groups are opened in between. -/
theorem splicing {motive : List Token → Prop} (nil : motive [])
    (seen : ∀ token rest, IsSeen token → motive rest → motive (token :: rest))
    (opened : ∀ inner rest, motive (inner ++ rest) → motive (.group .invisible inner :: rest))
    (tokens : List Token) : motive tokens := by
  induction size : sizeAll tokens using Nat.strong_induction_on generalizing tokens with
  | _ bound smaller =>
      subst size
      match tokens with
      | [] => exact nil
      | token :: rest =>
          by_cases group : ∃ inner, token = .group .invisible inner
          · obtain ⟨inner, rfl⟩ := group
            refine opened inner rest (smaller _ ?_ _ rfl)
            rw [sizeAll_append, sizeAll, Token.size]
            omega
          · refine seen token rest (not_exists.mp group) (smaller _ ?_ _ rfl)
            have := size_pos token
            rw [sizeAll]
            omega

theorem shown_of_isSeen {token : Token} (seen : IsSeen token) : shown token = [token] := by
  unfold shown
  split
  · exact absurd rfl (seen _)
  · rfl

theorem front?_of_isSeen {token : Token} (seen : IsSeen token) : front? token = some (token, []) := by
  unfold front?
  split
  · exact absurd rfl (seen _)
  · rfl

@[simp]
theorem shownAll_append (front back : List Token) :
    shownAll (front ++ back) = shownAll front ++ shownAll back := by
  induction front with
  | nil => rfl
  | cons token front inductionHypothesis =>
      rw [List.cons_append, shownAll, shownAll, inductionHypothesis, List.append_assoc]

theorem shownAll_cons_of_isSeen {token : Token} (seen : IsSeen token) (rest : List Token) :
    shownAll (token :: rest) = token :: shownAll rest := by
  rw [shownAll, shown_of_isSeen seen, List.singleton_append]

theorem shownAll_group (inner rest : List Token) :
    shownAll (.group .invisible inner :: rest) = shownAll (inner ++ rest) := by
  rw [shownAll_append, shownAll, shown]

theorem frontAll?_append (front back : List Token) :
    frontAll? (front ++ back) =
      match frontAll? front with
      | some (first, rest) => some (first, rest ++ back)
      | none => frontAll? back := by
  induction front with
  | nil => rfl
  | cons token front inductionHypothesis =>
      rw [List.cons_append, frontAll?, frontAll?]
      cases front? token with
      | some found => simp only [List.append_assoc]
      | none => exact inductionHypothesis

theorem frontAll?_group (inner rest : List Token) :
    frontAll? (.group .invisible inner :: rest) = frontAll? (inner ++ rest) := by
  cases found : frontAll? inner with
  | some front => simp only [frontAll?_append, frontAll?, front?, found]
  | none => simp only [frontAll?_append, frontAll?, front?, found]

theorem frontAll?_eq_some_iff {tokens rest : List Token} {first : Token} :
    frontAll? tokens = some (first, rest) ↔ Leads tokens first rest := by
  induction tokens using splicing with
  | nil => exact ⟨nofun, nofun⟩
  | seen token tokens seen =>
      rw [frontAll?, front?_of_isSeen seen]
      constructor
      · intro found
        cases found
        exact .here seen tokens
      · intro leads
        cases leads with
        | here => rfl
        | opened => exact absurd rfl (seen _)
  | opened inner tokens inductionHypothesis =>
      rw [frontAll?_group, inductionHypothesis]
      constructor
      · exact .opened
      · intro leads
        cases leads with
        | here seen => exact absurd rfl (seen _)
        | opened leads => exact leads

/-- Looking ahead finds the first token to be seen. -/
theorem visible_eq_cons_iff {tokens rest : List Token} {first : Token} :
    visible tokens = first :: rest ↔ Leads tokens first rest := by
  rw [← frontAll?_eq_some_iff, visible]
  cases frontAll? tokens with
  | none => simp
  | some found => simp [Prod.ext_iff]

theorem Leads.shownAll_eq {tokens rest : List Token} {first : Token}
    (leads : Leads tokens first rest) : shownAll tokens = first :: shownAll rest := by
  induction leads with
  | here seen rest => exact shownAll_cons_of_isSeen seen rest
  | opened leads inductionHypothesis => rw [shownAll_group, inductionHypothesis]

/-- The first token to be seen is the first one of all that are seen. -/
theorem shownAll_eq_cons_iff {tokens more : List Token} {first : Token} :
    shownAll tokens = first :: more ↔ ∃ rest, Leads tokens first rest ∧ shownAll rest = more := by
  constructor
  · intro shown
    induction tokens using splicing with
    | nil => cases shown
    | seen token tokens seen =>
        rw [shownAll_cons_of_isSeen seen] at shown
        cases shown
        exact ⟨tokens, .here seen tokens, rfl⟩
    | opened inner tokens inductionHypothesis =>
        rw [shownAll_group] at shown
        obtain ⟨rest, leads, left⟩ := inductionHypothesis shown
        exact ⟨rest, .opened leads, left⟩
  · rintro ⟨rest, leads, rfl⟩
    exact leads.shownAll_eq

theorem visible_eq_nil_iff {tokens : List Token} : visible tokens = [] ↔ shownAll tokens = [] := by
  constructor
  · intro nothing
    cases shown : shownAll tokens with
    | nil => rfl
    | cons first more =>
        obtain ⟨rest, leads, -⟩ := shownAll_eq_cons_iff.mp shown
        rw [visible_eq_cons_iff.mpr leads] at nothing
        cases nothing
  · intro nothing
    cases found : visible tokens with
    | nil => rfl
    | cons first rest =>
        rw [(visible_eq_cons_iff.mp found).shownAll_eq] at nothing
        cases nothing

theorem Leads.right_unique {tokens rest other : List Token} {first second : Token}
    (leads : Leads tokens first rest) (again : Leads tokens second other) :
    first = second ∧ rest = other :=
  List.cons.inj ((visible_eq_cons_iff.mpr leads).symm.trans (visible_eq_cons_iff.mpr again))

theorem Leads.append {tokens rest : List Token} {first : Token} (leads : Leads tokens first rest)
    (more : List Token) : Leads (tokens ++ more) first (rest ++ more) := by
  rw [← frontAll?_eq_some_iff] at leads ⊢
  rw [frontAll?_append, leads]

/-- Tokens of which nothing is seen may stand before others. -/
theorem Leads.behind {tokens rest nothing : List Token} {first : Token}
    (leads : Leads tokens first rest) (hidden : shownAll nothing = []) :
    Leads (nothing ++ tokens) first rest := by
  induction nothing using splicing with
  | nil => exact leads
  | seen token left seen => simp [shownAll_cons_of_isSeen seen] at hidden
  | opened inner left inductionHypothesis =>
      rw [shownAll_group] at hidden
      have further := inductionHypothesis hidden
      rw [List.append_assoc] at further
      exact .opened further

end Token
end Source
end Assurance
