import Assurance.Source.Reader

namespace Assurance
namespace Source

/-!
# Running readers

What a reader makes of given tokens follows from what its parts make of them.
There is one rule for each way to put readers together.  Looking ahead needs no
rule: it depends on the first tokens only, and where these are known it is
evaluated.

A repetition has as many rounds as there are tokens left at its start.  A round
that takes a token leaves enough of them for the others.
-/

namespace Reader

variable {α β : Type} {reader : Reader α} {tape after : Tape} {value : α}

theorem bind_of (first : reader tape = some (value, after)) (next : α → Reader β) :
    (reader >>= next) tape = next value after := by
  change (reader tape).bind _ = _
  rw [first]
  rfl

theorem bind_eq {next : α → Reader β} {result : Option (β × Tape)}
    (first : reader tape = some (value, after)) (second : next value after = result) :
    (reader >>= next) tape = result :=
  (bind_of first next).trans second

theorem bind_none {next : α → Reader β} (first : reader tape = none) :
    (reader >>= next) tape = none := by
  change (reader tape).bind _ = _
  rw [first]
  rfl

theorem sees_bind (view : List Token → Bool) (next : Bool → Reader β) (tape : Tape) :
    (sees view >>= next) tape = next (view tape.rest) tape := rfl

theorem get_bind (next : Tape → Reader β) (tape : Tape) : (get >>= next) tape = next tape tape := rfl

theorem exists_of_takeToken {token : Token} (read : takeToken tape = some (token, after)) :
    ∃ rest, Tokens.visible tape.rest = token :: rest ∧
      after = { tape with rest, written := tape.written ++ [token] } := by
  unfold takeToken at read
  split at read
  · cases read
  · rename_i rest begins
    cases read
    exact ⟨rest, begins, rfl⟩

theorem discard_of (read : reader tape = some (value, after)) :
    discard reader tape = some ((), after) :=
  bind_of read fun _ => pure ()

theorem aside_of {front rest written : List Token} {leftOver left : Bool}
    (read : reader ⟨front, [], leftOver⟩ = some (value, ⟨rest, written, left⟩))
    (before : List Token) :
    aside reader ⟨front, before, leftOver⟩ = some ((value, written), ⟨rest, before, left⟩) := by
  rw [aside, read]
  rfl

theorem aside_none {front before : List Token} {leftOver : Bool}
    (read : reader ⟨front, [], leftOver⟩ = none) : aside reader ⟨front, before, leftOver⟩ = none := by
  rw [aside, read]
  rfl

theorem standing_of {reader : Reader (α × Bool)} {front rest written : List Token}
    {leftOver left : Bool}
    (read : reader ⟨front, [], leftOver⟩ = some ((value, false), ⟨rest, written, left⟩))
    (before : List Token) :
    standing reader ⟨front, before, leftOver⟩ = some (value, ⟨rest, before ++ written, left⟩) := by
  rw [standing, read]
  rfl

theorem group_of (delimiter : Delimiter) (seen : delimiter ≠ .invisible)
    {inner written : List Token} (read : reader (.start inner) = some (value, ⟨[], written, false⟩))
    (rest before : List Token) (leftOver : Bool) :
    group delimiter reader ⟨.group delimiter inner :: rest, before, leftOver⟩ =
      some (value, ⟨rest, before ++ [.group delimiter written], leftOver⟩) := by
  have front : Tokens.groupsOf delimiter (.group delimiter inner :: rest) =
      .group delimiter inner :: rest := by
    cases delimiter with
    | invisible => exact absurd rfl seen
    | _ => rfl
  have nothing : Tokens.visible [] = [] := rfl
  simp only [group, front, if_true, read, Option.map_some, nothing, List.isEmpty_nil,
    Bool.not_true, Bool.or_false]

variable {round : β → Reader (β × Bool)} {found next : β} {result : β × Tape}

theorem repeatFromWithin_mono {limit more : Nat} (fewer : limit ≤ more)
    (read : repeatFromWithin limit round found tape = some result) :
    repeatFromWithin more round found tape = some result := by
  induction limit generalizing more found tape with
  | zero => cases read
  | succ limit inductionHypothesis =>
      obtain ⟨more, rfl⟩ := Nat.exists_eq_succ_of_ne_zero (Nat.ne_zero_of_lt fewer)
      obtain ⟨⟨⟨next, again⟩, after⟩, first, others⟩ := Option.bind_eq_some_iff.mp read
      rw [repeatFromWithin, bind_of first]
      cases again with
      | false => exact others
      | true => exact inductionHypothesis (Nat.le_of_succ_le_succ fewer) others

theorem repeatingFrom_stop (first : round found tape = some ((next, false), after)) :
    repeatingFrom found round tape = some (next, after) := by
  change repeatFromWithin (Token.sizeAll tape.rest + 1) round found tape = _
  rw [repeatFromWithin, bind_of first]
  rfl

theorem repeatingFrom_again (first : round found tape = some ((next, true), after))
    (takes : Token.sizeAll after.rest < Token.sizeAll tape.rest)
    (others : repeatingFrom next round after = some result) :
    repeatingFrom found round tape = some result := by
  change repeatFromWithin (Token.sizeAll tape.rest + 1) round found tape = _
  rw [repeatFromWithin, bind_of first]
  exact repeatFromWithin_mono takes others

theorem repeating_stop {round : Reader Bool} (first : round tape = some (false, after)) :
    repeating round tape = some ((), after) :=
  repeatingFrom_stop (bind_of first fun more => pure ((), more))

theorem repeating_again {round : Reader Bool} {result : Unit × Tape}
    (first : round tape = some (true, after))
    (takes : Token.sizeAll after.rest < Token.sizeAll tape.rest)
    (others : repeating round after = some result) : repeating round tape = some result :=
  repeatingFrom_again (bind_of first fun more => pure ((), more)) takes others

/-- A repetition fails if each round fails or asks for more, wherever it is. -/
theorem repeating_none {round : Reader Bool} {place : Tape → Prop}
    (goesOn : ∀ {tape after : Tape} {more : Bool}, place tape → round tape = some (more, after) →
      more = true ∧ place after)
    (here : place tape) : repeating round tape = none := by
  have within (limit : Nat) {tape : Tape} (here : place tape) :
      repeatFromWithin limit (fun _ => do return ((), ← round)) () tape = none := by
    induction limit generalizing tape with
    | zero => rfl
    | succ limit inductionHypothesis =>
        cases read : round tape with
        | none => exact bind_none (bind_none read)
        | some told =>
            obtain ⟨more, after⟩ := told
            obtain ⟨rfl, there⟩ := goesOn here read
            rw [repeatFromWithin, bind_of (bind_of read fun more => pure ((), more))]
            exact inductionHypothesis there
  exact within _ here

theorem commaList_one {item : Reader Unit} {front written : List Token} (nonempty : front ≠ [])
    (read : item (.start front) = some ((), ⟨[], written, false⟩)) :
    commaList item (.start front) = some ((), ⟨[], written, false⟩) := by
  refine repeating_stop ?_
  obtain ⟨token, front, rfl⟩ := List.exists_cons_of_ne_nil nonempty
  exact bind_eq rfl (bind_eq read rfl)

end Reader

end Source
end Assurance
