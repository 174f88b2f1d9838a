import Assurance.Proofs.Source.Comma
import Assurance.Proofs.Source.Running

namespace Assurance
namespace Source

/-!
# Readers before a comma

A reader is steady if it leaves some of the tokens at the end, and if it reads
the same with a comma behind them, which it leaves too.  Readers that are put
together from steady readers by views that overlook the comma are steady.  What
stands in a group is not asked for, since the comma stands behind the whole
group.

A reader may stop where it sees a comma or the end.  That does no harm if it
could not have read anything at the end, as a reader that takes a token.
-/

open Tokens Token

/-- The tape with a comma behind everything that is left to read. -/
def Tape.beforeComma (tape : Tape) (joint : Bool) : Tape :=
  { tape with rest := tape.rest ++ [.punct ',' joint] }

namespace Reader

variable {α β : Type}

/-- A reader leaves tokens at the end, and it reads the same if a comma stands behind them. -/
class Steady (reader : Reader α) : Prop where
  leaves {tape after : Tape} {value : α} (read : reader tape = some (value, after)) :
    shownAll after.rest <:+ shownAll tape.rest
  again {tape after : Tape} {value : α} (read : reader tape = some (value, after)) (joint : Bool) :
    reader (tape.beforeComma joint) = some (value, after.beforeComma joint)

/-- A reader that takes a token. -/
class Advancing (reader : Reader α) : Prop extends Steady reader where
  advances {tape after : Tape} {value : α} (read : reader tape = some (value, after)) :
    (shownAll after.rest).length < (shownAll tape.rest).length

theorem Steady.length_le {reader : Reader α} [steady : Steady reader] {tape after : Tape}
    {value : α} (read : reader tape = some (value, after)) :
    (shownAll after.rest).length ≤ (shownAll tape.rest).length :=
  (steady.leaves read).length_le

theorem Advancing.none_of_end {reader : Reader α} [advancing : Advancing reader] {tape : Tape}
    (nothing : shownAll tape.rest = []) : reader tape = none := by
  refine Option.eq_none_iff_forall_ne_some.mpr fun told read => ?_
  have fewer := advancing.advances read
  rw [nothing] at fewer
  exact Nat.not_lt_zero _ fewer

instance (value : α) : Steady (pure value : Reader α) where
  leaves read := by
    cases read
    exact List.suffix_rfl
  again read joint := by
    cases read
    rfl

instance : Steady (failure : Reader α) where
  leaves read := by cases read
  again read := by cases read

instance : Advancing (failure : Reader α) where
  advances read := by cases read

section Bind

variable {reader : Reader α} {next : α → Reader β}

instance [Steady reader] [others : ∀ value, Steady (next value)] :
    Steady (reader >>= next) where
  leaves read := by
    obtain ⟨⟨value, between⟩, first, second⟩ := Option.bind_eq_some_iff.mp read
    exact ((others value).leaves second).trans (Steady.leaves first)
  again read joint := by
    obtain ⟨⟨value, between⟩, first, second⟩ := Option.bind_eq_some_iff.mp read
    exact Option.bind_eq_some_iff.mpr
      ⟨_, Steady.again first joint, (others value).again second joint⟩

instance [Advancing reader] [others : ∀ value, Steady (next value)] :
    Advancing (reader >>= next) where
  advances read := by
    obtain ⟨⟨value, between⟩, first, second⟩ := Option.bind_eq_some_iff.mp read
    exact Nat.lt_of_le_of_lt (Steady.length_le second) (Advancing.advances first)

instance [Steady reader] [others : ∀ value, Advancing (next value)] :
    Advancing (reader >>= next) where
  advances read := by
    obtain ⟨⟨value, between⟩, first, second⟩ := Option.bind_eq_some_iff.mp read
    exact Nat.lt_of_lt_of_le ((others value).advances second) (Steady.length_le first)

theorem Steady.bind [Steady reader] (others : ∀ value, Steady (next value)) :
    Steady (reader >>= next) :=
  inferInstance

theorem Advancing.behind [Steady reader] (others : ∀ value, Advancing (next value)) :
    Advancing (reader >>= next) :=
  inferInstance

theorem Advancing.bind [Advancing reader] (others : ∀ value, Steady (next value)) :
    Advancing (reader >>= next) :=
  inferInstance

section Pair

variable {γ : Type} {reader : Reader (α × γ)} {next : α × γ → Reader β}

/-- What is read as a pair is taken apart. -/
instance [Steady reader] [others : ∀ first second, Steady (next (first, second))] :
    Steady (reader >>= next) :=
  have _ (told : α × γ) : Steady (next told) := others told.1 told.2
  inferInstance

instance [Steady reader] [others : ∀ first second, Advancing (next (first, second))] :
    Advancing (reader >>= next) :=
  have _ (told : α × γ) : Advancing (next told) := others told.1 told.2
  inferInstance

instance [Advancing reader] [others : ∀ first second, Steady (next (first, second))] :
    Advancing (reader >>= next) :=
  have _ (told : α × γ) : Steady (next told) := others told.1 told.2
  inferInstance

end Pair

instance [Steady reader] : Steady (discard reader) :=
  inferInstanceAs (Steady (reader >>= fun _ => pure ()))

instance [Advancing reader] : Advancing (discard reader) :=
  inferInstanceAs (Advancing (reader >>= fun _ => pure ()))

end Bind

section Choice

variable {condition : Prop} [Decidable condition] {first second : Reader α}

instance [Steady first] [Steady second] : Steady (if condition then first else second) := by
  split <;> assumption

instance [Advancing first] [Advancing second] :
    Advancing (if condition then first else second) := by
  split <;> assumption

end Choice

instance {view : List Token → Bool} [Overlooks view] : Steady (sees view) where
  leaves read := by
    cases read
    exact List.suffix_rfl
  again {tape _ _} read joint := by
    cases read
    exact congrArg (fun seen => some (seen, tape.beforeComma joint)) (overlooks view tape.rest joint)

/-- A reader that stops at a comma, and that could not have read anything at the end. -/
theorem steady_unless {stops : List Token → Bool} [behind : OverlooksBehind stops]
    [comma : SeesComma stops] {reader : Reader α} {value : α} [Advancing reader] :
    Steady (do if ← sees stops then return value else reader) where
  leaves {tape _ _} read := by
    change (if stops tape.rest then pure value else reader) tape = _ at read
    exact Steady.leaves read
  again {tape _ _} read joint := by
    change (if stops tape.rest then pure value else reader) tape = _ at read
    change (if stops (tape.rest ++ _) then pure value else reader) _ = _
    by_cases more : shownAll tape.rest = []
    -- Without the comma the reader may have gone on at the end, but then it has failed.
    · rw [if_pos (comma.sees more joint)]
      split at read
      · exact Steady.again read joint
      · have unread : reader tape = none := Advancing.none_of_end more
        rw [unread] at read
        cases read
    · rw [behind.overlooks more]
      exact Steady.again read joint

section Left

variable {next : Tape → Reader α}

/-- A reader that depends on what is left to read. -/
theorem steady_of_get (steady : ∀ tape, Steady (next tape))
    (same : ∀ {tape after : Tape} {value : α}, next tape tape = some (value, after) →
      ∀ joint, next (tape.beforeComma joint) = next tape) : Steady (get >>= next) where
  leaves {tape _ _} read := (steady tape).leaves read
  again {tape after value} read joint := by
    change next (tape.beforeComma joint) _ = _
    rw [same read]
    exact (steady tape).again read joint

theorem advancing_of_get (advancing : ∀ tape, Advancing (next tape))
    (same : ∀ {tape after : Tape} {value : α}, next tape tape = some (value, after) →
      ∀ joint, next (tape.beforeComma joint) = next tape) : Advancing (get >>= next) :=
  { steady_of_get (fun _ => inferInstance) same with
    advances := fun {tape _ _} read => (advancing tape).advances read }

/-- A reader that goes on as long as something has been read. -/
theorem steady_of_progress {reader : Reader β} {done further : β → Reader α} [Steady reader]
    [∀ value, Steady (done value)] [∀ value, Steady (further value)] :
    Steady (do
      let before := (← get).rest
      let value ← reader
      if (← get).rest = before then done value else further value) where
  leaves {tape _ _} read := by
    obtain ⟨⟨value, between⟩, first, second⟩ := Option.bind_eq_some_iff.mp read
    change (if between.rest = tape.rest then done value else further value) between = _ at second
    exact (Steady.leaves second).trans (Steady.leaves first)
  again {tape _ _} read joint := by
    obtain ⟨⟨value, between⟩, first, second⟩ := Option.bind_eq_some_iff.mp read
    change (if between.rest = tape.rest then done value else further value) between = _ at second
    refine Option.bind_eq_some_iff.mpr ⟨_, Steady.again first joint, ?_⟩
    change (if between.rest ++ _ = tape.rest ++ _ then done value else further value) _ = _
    simp only [List.append_left_inj]
    exact Steady.again second joint

end Left

/-! ## Tokens and groups -/

instance (tokens : List Token) : Steady (write tokens) where
  leaves read := by
    cases read
    exact List.suffix_rfl
  again read joint := by
    cases read
    rfl

instance : Steady takeToken where
  leaves read := by
    obtain ⟨rest, begins, rfl⟩ := exists_of_takeToken read
    rw [(Token.visible_eq_cons_iff.mp begins).shownAll_eq]
    exact List.suffix_cons _ _
  again read joint := by
    obtain ⟨rest, begins, rfl⟩ := exists_of_takeToken read
    simp only [takeToken, Tape.beforeComma, visible_append begins]

instance : Advancing takeToken where
  advances read := by
    obtain ⟨rest, begins, rfl⟩ := exists_of_takeToken read
    rw [(Token.visible_eq_cons_iff.mp begins).shownAll_eq]
    exact Nat.lt_succ_self _

instance (text : String) : Steady (operator text) where
  leaves read := by
    unfold operator at read
    split at read
    · cases read
    · rename_i rest found
      cases read
      obtain ⟨first, more, shown⟩ := exists_of_afterOperator? found
      exact ⟨_, shown.symm⟩
  again read joint := by
    unfold operator at read ⊢
    split at read
    · cases read
    · rename_i rest found
      cases read
      simp only [Tape.beforeComma, afterOperator?_append found]

instance (text : String) : Advancing (operator text) where
  advances read := by
    unfold operator at read
    split at read
    · cases read
    · rename_i rest found
      cases read
      obtain ⟨first, more, shown⟩ := exists_of_afterOperator? found
      rw [shown, List.length_append]
      exact Nat.lt_add_of_pos_left (Nat.succ_pos _)

instance (name : String) : Advancing (word name) := by
  unfold word
  infer_instance

theorem shownAll_of_word {name : String} {tape after : Tape} {told : Unit}
    (read : word name tape = some (told, after)) :
    shownAll tape.rest = Token.word name :: shownAll after.rest := by
  rw [word, sees_bind] at read
  split at read
  · rename_i begins
    obtain ⟨⟨token, between⟩, taken, same⟩ := Option.bind_eq_some_iff.mp read
    obtain ⟨rest, leads, rfl⟩ := exists_of_takeToken taken
    have front := visible_of_wordNext begins
    rw [leads] at front
    cases front
    cases same
    exact (Token.visible_eq_cons_iff.mp leads).shownAll_eq
  · cases read

instance : Advancing name := by
  unfold name
  infer_instance

instance : Advancing anyWord := by
  unfold anyWord
  infer_instance

instance : Advancing lifetime := by
  unfold lifetime
  infer_instance

instance : Advancing literal := by
  have minus : Overlooks (operatorNext "-") := overlooks_operatorNext (by decide)
  unfold literal
  dsimp only
  infer_instance

instance {text : String} [Overlooks (operatorNext text)] : Steady (operator? text) := by
  unfold operator?
  infer_instance

instance (name : String) : Steady (word? name) := by
  unfold word?
  infer_instance

section Group

variable {delimiter : Delimiter} {reader : Reader α}

theorem exists_of_group {tape after : Tape} {value : α}
    (read : group delimiter reader tape = some (value, after)) :
    ∃ inner ended, groupsOf delimiter tape.rest = .group delimiter inner :: after.rest ∧
      reader (.start inner) = some (value, ended) ∧
      after.written = tape.written ++ [.group delimiter ended.written] ∧
      after.leftOver = (tape.leftOver || ended.leftOver || !(visible ended.rest).isEmpty) := by
  unfold group at read
  split at read
  · rename_i begins
    split at read
    · rename_i same
      obtain ⟨⟨_, ended⟩, inside, left⟩ := Option.map_eq_some_iff.mp read
      cases left
      exact ⟨_, ended, same ▸ begins, inside, rfl, rfl⟩
    · cases read
  · cases read

theorem groupsOf_append {tokens rest : List Token} {first : Token}
    (begins : groupsOf delimiter tokens = first :: rest) (more : List Token) :
    groupsOf delimiter (tokens ++ more) = first :: (rest ++ more) := by
  unfold groupsOf at begins ⊢
  split at begins
  · rw [if_pos ‹_›, begins]
    rfl
  · rw [if_neg ‹_›]
    exact visible_append begins more

/-- A group that comes first is seen as a whole, or its tokens are. -/
theorem shownAll_of_groupsOf {tokens inner rest : List Token}
    (begins : groupsOf delimiter tokens = .group delimiter inner :: rest) :
    shownAll tokens =
      (if delimiter = .invisible then shownAll inner else [.group delimiter inner]) ++
        shownAll rest := by
  unfold groupsOf at begins
  split at begins
  · rename_i invisible
    rw [begins, if_pos invisible, invisible, shownAll_group, shownAll_append]
  · rename_i seen
    rw [if_neg seen, (Token.visible_eq_cons_iff.mp begins).shownAll_eq]
    rfl

/-- What stands in a group is not asked for. -/
instance : Steady (group delimiter reader) where
  leaves read := by
    obtain ⟨inner, ended, begins, -⟩ := exists_of_group read
    exact ⟨_, (shownAll_of_groupsOf begins).symm⟩
  again read joint := by
    obtain ⟨inner, ended, begins, inside, written, left⟩ := exists_of_group read
    simp only [group, Tape.beforeComma, groupsOf_append begins, if_true, inside, Option.map_some,
      ← written, ← left]

instance [Advancing reader] : Advancing (group delimiter reader) where
  advances read := by
    obtain ⟨inner, ended, begins, inside, -⟩ := exists_of_group read
    have takes : 0 < (shownAll inner).length :=
      Nat.lt_of_le_of_lt (Nat.zero_le _) (Advancing.advances inside)
    rw [shownAll_of_groupsOf begins, List.length_append]
    refine Nat.lt_add_of_pos_left ?_
    split
    · exact takes
    · exact Nat.one_pos

theorem advancing_group (seen : delimiter ≠ .invisible) : Advancing (group delimiter reader) where
  advances read := by
    obtain ⟨inner, ended, begins, -⟩ := exists_of_group read
    rw [shownAll_of_groupsOf begins, if_neg seen]
    exact Nat.lt_succ_self _

instance : Advancing (group .parenthesis reader) := advancing_group (by decide)

instance : Advancing (group .bracket reader) := advancing_group (by decide)

instance : Advancing (group .brace reader) := advancing_group (by decide)

end Group

instance (delimiter : Delimiter) : Steady (anyGroupOf delimiter) := by
  unfold anyGroupOf
  infer_instance

theorem exists_of_anyGroup {tape after : Tape} {delimiter : Delimiter}
    (read : anyGroup tape = some (delimiter, after)) :
    delimiter ≠ .invisible ∧ ∃ inner, tape.rest = .group delimiter inner :: after.rest ∧
      after.written = tape.written ++ [.group delimiter inner] ∧
      after.leftOver = tape.leftOver := by
  unfold anyGroup at read
  split at read
  · cases read
  · rename_i seen front
    cases read
    exact ⟨seen, _, front, rfl, rfl⟩
  · cases read

instance : Steady anyGroup where
  leaves read := by
    obtain ⟨seen, inner, front, -⟩ := exists_of_anyGroup read
    rw [front, shownAll]
    exact List.suffix_append _ _
  again {tape after delimiter} read joint := by
    obtain ⟨seen, inner, front, written, left⟩ := exists_of_anyGroup read
    simp only [anyGroup, Tape.beforeComma, front, List.cons_append, ← written, ← left]

section Aside

variable {reader : Reader α}

instance [Steady reader] : Steady (aside reader) where
  leaves read := by
    obtain ⟨⟨value, ended⟩, inside, same⟩ := Option.map_eq_some_iff.mp read
    cases same
    exact (Steady.leaves inside : shownAll ended.rest <:+ _)
  again read joint := by
    obtain ⟨⟨value, ended⟩, inside, same⟩ := Option.map_eq_some_iff.mp read
    cases same
    exact Option.map_eq_some_iff.mpr ⟨_, Steady.again inside joint, rfl⟩

instance [Advancing reader] : Advancing (aside reader) where
  advances read := by
    obtain ⟨⟨value, ended⟩, inside, same⟩ := Option.map_eq_some_iff.mp read
    cases same
    exact (Advancing.advances inside : (shownAll ended.rest).length < _)

instance {text : String} [Overlooks (operatorNext text)] : Steady (dropOperator text) := by
  unfold dropOperator
  infer_instance

instance {reader : Reader (α × Bool)} [Steady reader] : Steady (standing reader) where
  leaves read := by
    obtain ⟨⟨⟨value, asItStands⟩, ended⟩, inside, same⟩ := Option.map_eq_some_iff.mp read
    cases same
    exact (Steady.leaves inside : shownAll ended.rest <:+ _)
  again read joint := by
    obtain ⟨⟨⟨value, asItStands⟩, ended⟩, inside, same⟩ := Option.map_eq_some_iff.mp read
    cases same
    refine Option.map_eq_some_iff.mpr ⟨_, Steady.again inside joint, ?_⟩
    simp only [Tape.beforeComma, sizeAll_comma, beforeAll_comma]

instance {reader : Reader (α × Bool)} [Advancing reader] : Advancing (standing reader) where
  advances read := by
    obtain ⟨⟨⟨value, asItStands⟩, ended⟩, inside, same⟩ := Option.map_eq_some_iff.mp read
    cases same
    exact (Advancing.advances inside : (shownAll ended.rest).length < _)

instance [Steady reader] : Steady (verbatim reader) := by
  unfold verbatim
  infer_instance

end Aside

/-! ## Repetitions -/

section Repetition

variable {round : α → Reader (α × Bool)}

instance [∀ value, Steady (round value)] (limit : Nat) (value : α) :
    Steady (repeatFromWithin limit round value) := by
  induction limit generalizing value with
  | zero => exact inferInstanceAs (Steady failure)
  | succ limit inductionHypothesis =>
      unfold repeatFromWithin
      infer_instance

instance [∀ value, Steady (round value)] (start : α) :
    Steady (repeatingFrom start round) where
  leaves {tape _ _} read := by
    change repeatFromWithin (sizeAll tape.rest + 1) round start tape = _ at read
    exact Steady.leaves read
  again {tape _ _} read joint := by
    change repeatFromWithin (sizeAll tape.rest + 1) round start tape = _ at read
    -- The comma allows for one round more.
    have enough : sizeAll tape.rest + 1 ≤ sizeAll (tape.beforeComma joint).rest + 1 := by
      rw [Tape.beforeComma, sizeAll_comma]
      exact Nat.le_succ _
    exact repeatFromWithin_mono enough (Steady.again read joint)

instance [∀ value, Advancing (round value)] (start : α) :
    Advancing (repeatingFrom start round) where
  advances {tape _ _} read := by
    change repeatFromWithin (sizeAll tape.rest + 1) round start tape = _ at read
    obtain ⟨⟨⟨next, again⟩, between⟩, first, others⟩ := Option.bind_eq_some_iff.mp read
    have further : (shownAll between.rest).length < _ := Advancing.advances first
    cases again with
    | false =>
        cases others
        exact further
    | true =>
        have behind : repeatFromWithin (sizeAll tape.rest) round next between = _ := others
        exact Nat.lt_of_le_of_lt (Steady.length_le behind) further

end Repetition

instance {round : Reader Bool} [Steady round] : Steady (repeating round) := by
  unfold repeating
  infer_instance

instance {round : Reader Bool} [Advancing round] : Advancing (repeating round) := by
  unfold repeating
  infer_instance

section Lists

variable {stops : List Token → Bool} {item : Reader Unit} {separator : String}

instance [Overlooks stops] [Steady item] : Steady (separated stops item separator) := by
  unfold separated
  infer_instance

theorem steady_joined [OverlooksBehind stops] [SeesComma stops] [Advancing item]
    [Overlooks (operatorNext separator)] : Steady (joined stops item separator) := by
  have round : Steady (do
      if ← sees stops then return false
      item
      operator? separator) := steady_unless
  unfold joined
  infer_instance

end Lists

end Reader

end Source
end Assurance
