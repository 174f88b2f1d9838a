import Assurance.Source.Token

namespace Assurance
namespace Source
namespace Token

/-!
# Occurrence of a name among tokens

A name occurs among tokens if it is one of them or occurs inside a group, at any
depth and between delimiters of any kind.  A raw identifier is another name, and
so is one that only contains it.

Seen from the outside, the tokens stand in layers, one for each depth, and a name
occurs if it is a token of some layer.

Main statements: `anyMentions_eq_true_iff`, `occurs_iff_exists_depth`.
-/

/-- A name occurs among tokens, at any depth. -/
inductive Occurs (name : String) : List Token → Prop where
  | here (rest : List Token) : Occurs name (word name :: rest)
  | inside (delimiter : Delimiter) {inner : List Token} (rest : List Token)
      (occurs : Occurs name inner) : Occurs name (.group delimiter inner :: rest)
  | later (token : Token) {rest : List Token} (occurs : Occurs name rest) :
      Occurs name (token :: rest)

mutual

theorem occurs_of_mentions {name : String} : (token : Token) → mentions name token = true →
    (rest : List Token) → Occurs name (token :: rest)
  | .ident raw found, mentioned, rest => by
      simp only [mentions, Bool.and_eq_true, Bool.not_eq_true', beq_iff_eq] at mentioned
      obtain ⟨rfl, rfl⟩ := mentioned
      exact .here rest
  | .punct .., mentioned, _ => nomatch mentioned
  | .literal _, mentioned, _ => nomatch mentioned
  | .group delimiter inner, mentioned, rest =>
      .inside delimiter rest (occurs_of_anyMentions inner mentioned)

theorem occurs_of_anyMentions {name : String} :
    (tokens : List Token) → anyMentions name tokens = true → Occurs name tokens
  | [], mentioned => nomatch mentioned
  | token :: tokens, mentioned => by
      rw [anyMentions, Bool.or_eq_true] at mentioned
      rcases mentioned with first | later
      · exact occurs_of_mentions token first tokens
      · exact .later token (occurs_of_anyMentions tokens later)

end

/-- The search for a name finds it exactly if it occurs. -/
theorem anyMentions_eq_true_iff {name : String} {tokens : List Token} :
    anyMentions name tokens = true ↔ Occurs name tokens := by
  constructor
  · exact occurs_of_anyMentions tokens
  · intro occurs
    induction occurs with
    | here rest => simp [anyMentions, mentions, word]
    | inside delimiter rest occurs inductionHypothesis =>
        simp [anyMentions, mentions, inductionHypothesis]
    | later token occurs inductionHypothesis => simp [anyMentions, inductionHypothesis]

/-- The tokens between the delimiters of a group; other tokens have none. -/
def contents : Token → List Token
  | .group _ inner => inner
  | _ => []

/-- The tokens that stand inside a number of groups, one group inside the other. -/
def atDepth : Nat → List Token → List Token
  | 0, tokens => tokens
  | depth + 1, tokens => atDepth depth (tokens.flatMap contents)

theorem atDepth_append (depth : Nat) (front back : List Token) :
    atDepth depth (front ++ back) = atDepth depth front ++ atDepth depth back := by
  induction depth generalizing front back with
  | zero => rfl
  | succ depth inductionHypothesis =>
      simp only [atDepth, List.flatMap_append, inductionHypothesis]

theorem occurs_of_mem {name : String} {tokens : List Token} (member : word name ∈ tokens) :
    Occurs name tokens := by
  induction tokens with
  | nil => cases member
  | cons token tokens inductionHypothesis =>
      rcases List.mem_cons.mp member with rfl | later
      · exact .here tokens
      · exact .later token (inductionHypothesis later)

theorem occurs_append_iff {name : String} {front back : List Token} :
    Occurs name (front ++ back) ↔ Occurs name front ∨ Occurs name back := by
  simp only [← anyMentions_eq_true_iff]
  induction front with
  | nil => simp [anyMentions]
  | cons token front inductionHypothesis =>
      simp [anyMentions, inductionHypothesis, or_assoc]

/-- What occurs between the delimiters of some tokens occurs among the tokens. -/
theorem occurs_of_contents {name : String} {tokens : List Token}
    (occurs : Occurs name (tokens.flatMap contents)) : Occurs name tokens := by
  induction tokens with
  | nil => cases occurs
  | cons token tokens inductionHypothesis =>
      rw [List.flatMap_cons, occurs_append_iff] at occurs
      rcases occurs with first | later
      · cases token with
        | group delimiter inner => exact .inside delimiter tokens first
        | _ => cases first
      · exact .later token (inductionHypothesis later)

/-- A name occurs among tokens if it is one of the tokens at some depth. -/
theorem occurs_iff_exists_depth {name : String} {tokens : List Token} :
    Occurs name tokens ↔ ∃ depth, word name ∈ atDepth depth tokens := by
  constructor
  · intro occurs
    induction occurs with
    | here rest => exact ⟨0, List.mem_cons_self⟩
    | @inside delimiter inner rest occurs inductionHypothesis =>
        obtain ⟨depth, member⟩ := inductionHypothesis
        refine ⟨depth + 1, ?_⟩
        rw [atDepth, List.flatMap_cons, atDepth_append]
        exact List.mem_append_left _ member
    | @later token rest occurs inductionHypothesis =>
        obtain ⟨depth, member⟩ := inductionHypothesis
        refine ⟨depth, ?_⟩
        rw [← List.singleton_append, atDepth_append]
        exact List.mem_append_right _ member
  · rintro ⟨depth, member⟩
    induction depth generalizing tokens with
    | zero => exact occurs_of_mem member
    | succ depth inductionHypothesis => exact occurs_of_contents (inductionHypothesis member)

end Token
end Source
end Assurance
