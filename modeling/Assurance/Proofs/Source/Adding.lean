import Assurance.Proofs.Source.Running
import Assurance.Source.Grammar.Path

namespace Assurance
namespace Source
namespace Reader

/-!
# What readers add

A reader writes behind what has been written before it.  What it adds has some
form, which may depend on the value that it tells, and the forms of readers put
together follow from the forms of their parts.

Not every part needs a form of its own.  What is read aside is not added at all,
so the reader of a list between angle brackets adds a list between angle
brackets, whatever the entries are.
-/

variable {α β : Type}

/-- Whatever a reader takes, it adds tokens of some form to what has been written. -/
def Adds (reader : Reader α) (form : α → List Token → Prop) : Prop :=
  ∀ tape value after, reader tape = some (value, after) →
    ∃ added, after.written = tape.written ++ added ∧ form value added

variable {reader : Reader α} {form : α → List Token → Prop}

theorem Adds.pure {value : α} (formed : form value []) : Adds (pure value) form := by
  intro tape found after read
  cases read
  exact ⟨[], (List.append_nil _).symm, formed⟩

theorem Adds.failure : Adds (failure : Reader α) form := nofun

/-- The second of two readers goes on behind what the first one has added. -/
theorem Adds.bind {next : α → Reader β} {whole : β → List Token → Prop} (adds : Adds reader form)
    (goesOn : ∀ value front, form value front →
      Adds (next value) fun found back => whole found (front ++ back)) :
    Adds (reader >>= next) whole := by
  intro tape found after read
  obtain ⟨⟨value, between⟩, first, second⟩ := Option.bind_eq_some_iff.mp read
  obtain ⟨front, written, formed⟩ := adds tape value between first
  obtain ⟨back, more, complete⟩ := goesOn value front formed between found after second
  exact ⟨front ++ back, by rw [more, written, List.append_assoc], complete⟩

theorem Adds.discard {added : List Token → Prop} (adds : Adds reader fun _ => added) :
    Adds (discard reader) fun _ => added :=
  adds.bind fun _ _ formed => Adds.pure (by simpa using formed)

theorem Adds.mono {wider : α → List Token → Prop} (adds : Adds reader form)
    (widens : ∀ value added, form value added → wider value added) : Adds reader wider := by
  intro tape value after read
  obtain ⟨added, written, formed⟩ := adds tape value after read
  exact ⟨added, written, widens value added formed⟩

/-- What is read aside is not added, but told. -/
theorem Adds.aside (adds : Adds reader form) :
    Adds (aside reader) fun told added => added = [] ∧ form told.1 told.2 := by
  intro tape told after read
  obtain ⟨⟨value, ended⟩, inside, same⟩ := Option.map_eq_some_iff.mp read
  obtain ⟨added, written, formed⟩ := adds _ value ended inside
  cases same
  rw [List.nil_append] at written
  exact ⟨[], (List.append_nil _).symm, rfl, written ▸ formed⟩

theorem adds_aside (reader : Reader α) : Adds (aside reader) fun _ added => added = [] := by
  intro tape told after read
  obtain ⟨⟨value, ended⟩, inside, same⟩ := Option.map_eq_some_iff.mp read
  cases same
  exact ⟨[], (List.append_nil _).symm, rfl⟩

/-- Looking ahead adds nothing. -/
theorem adds_sees_bind {view : List Token → Bool} {next : Bool → Reader α}
    (adds : ∀ seen, Adds (next seen) form) : Adds (sees view >>= next) form :=
  fun tape value after read => adds (view tape.rest) tape value after read

/-- What rounds add is put together, if the form allows it. -/
theorem adds_repeatingFrom {whole : List Token → Prop}
    (append : ∀ {front back}, whole front → whole back → whole (front ++ back))
    {round : α → Reader (α × Bool)} (adds : ∀ value, Adds (round value) fun _ => whole) (start : α) :
    Adds (repeatingFrom start round) fun _ => whole := by
  have within (limit : Nat) (value : α) :
      Adds (repeatFromWithin limit round value) fun _ => whole := by
    induction limit generalizing value with
    | zero => exact Adds.failure
    | succ limit inductionHypothesis =>
        refine (adds value).bind fun told front formed => ?_
        obtain ⟨next, more⟩ := told
        dsimp only
        split
        · exact (inductionHypothesis next).mono fun _ _ others => append formed others
        · exact Adds.pure (by simpa using formed)
  intro tape value after read
  exact within _ start tape value after read

theorem adds_write (tokens : List Token) : Adds (write tokens) fun _ added => added = tokens := by
  intro tape value after read
  cases read
  exact ⟨tokens, rfl, rfl⟩

/-- A token that is taken if it looks some way. -/
theorem adds_seen {view : List Token → Bool} {added : Unit → List Token → Prop}
    {otherwise : Reader Unit}
    (takes : ∀ tokens token rest, Tokens.visible tokens = token :: rest → view tokens = true →
      added () [token])
    (adds : Adds otherwise added) :
    Adds (do if ← sees view then discard takeToken else otherwise) added := by
  intro tape value after read
  change (if view tape.rest then discard takeToken else otherwise : Reader Unit) tape = _ at read
  split at read
  · rename_i seen
    obtain ⟨⟨token, ended⟩, taken, same⟩ := Option.bind_eq_some_iff.mp read
    cases same
    obtain ⟨rest, begins, rfl⟩ := exists_of_takeToken taken
    exact ⟨[token], rfl, takes _ token rest begins seen⟩
  · exact adds tape value after read

theorem adds_word (name : String) : Adds (word name) fun _ added => added = [Token.word name] := by
  refine adds_seen (fun tokens token rest begins seen => ?_) Adds.failure
  rw [Tokens.wordNext, begins] at seen
  cases token with
  | ident raw found =>
      cases raw with
      | false =>
          rw [beq_iff_eq.mp seen]
          rfl
      | true => cases seen
  | _ => cases seen

theorem adds_word? (name : String) :
    Adds (word? name) fun found added => added = if found then [Token.word name] else [] := by
  refine adds_sees_bind fun seen => ?_
  split
  · exact (adds_word name).bind fun _ _ written => Adds.pure (by simpa using written)
  · exact Adds.pure rfl

theorem adds_name : Adds name fun _ added => ∃ raw text, added = [.ident raw text] := by
  refine adds_seen (fun tokens token rest begins seen => ?_) Adds.failure
  rw [Tokens.nameNext, begins] at seen
  cases token with
  | ident raw text => exact ⟨raw, text, rfl⟩
  | _ => cases seen

theorem adds_operator (text : String) :
    Adds (operator text) fun _ added => added = Token.operator text := by
  intro tape value after read
  unfold operator at read
  split at read
  · cases read
  · cases read
    exact ⟨_, rfl, rfl⟩

theorem adds_operator? (text : String) :
    Adds (operator? text) fun found added => added = if found then Token.operator text else [] := by
  refine adds_sees_bind fun seen => ?_
  split
  · exact (adds_operator text).bind fun _ _ written => Adds.pure (by simpa using written)
  · exact Adds.pure rfl

/-- A group is added, whatever its reader writes; what the reader tells is told. -/
theorem adds_group_of {told : α → Prop}
    (tells : ∀ tape value after, reader tape = some (value, after) → told value)
    (delimiter : Delimiter) :
    Adds (group delimiter reader) fun value added =>
      told value ∧ ∃ inner, added = [.group delimiter inner] := by
  intro tape value after read
  unfold group at read
  split at read
  · split at read
    · obtain ⟨⟨found, ended⟩, inside, same⟩ := Option.map_eq_some_iff.mp read
      cases same
      exact ⟨_, rfl, tells _ _ _ inside, ended.written, rfl⟩
    · cases read
  · cases read

theorem adds_group (delimiter : Delimiter) (reader : Reader α) :
    Adds (group delimiter reader) fun _ added => ∃ inner, added = [.group delimiter inner] :=
  (adds_group_of (fun _ _ _ _ => trivial) delimiter).mono fun _ _ enclosed => enclosed.2

end Reader

namespace Grammar

open Reader

theorem adds_entries (entry : Reader Bool) : Adds (entries entry) fun _ added => added = [] := by
  have append {front back : List Token} (first : front = []) (second : back = []) :
      front ++ back = [] := by
    rw [first, second, List.append_nil]
  refine @adds_repeatingFrom _ (· = []) append _ (fun found => ?_) []
  refine adds_sees_bind fun stops => ?_
  split
  · exact Adds.pure rfl
  · refine (adds_aside entry).bind fun told _ nothing => ?_
    subst nothing
    refine adds_sees_bind fun stops => ?_
    split
    · exact Adds.pure rfl
    · refine (adds_aside _).bind fun _ _ nothing => ?_
      subst nothing
      exact Adds.pure rfl

/-- Tokens between angle brackets. -/
def Angled (tokens : List Token) : Prop :=
  ∃ inner, tokens = Token.mark '<' :: inner ++ [Token.mark '>']

theorem adds_angled (entry : Reader Bool) : Adds (angled entry) fun _ => Angled := by
  refine (adds_operator "<").bind fun _ _ opened => ?_
  refine (adds_entries entry).bind fun found _ nothing => ?_
  refine (adds_write (arranged found)).bind fun _ _ written => ?_
  refine (adds_operator ">").bind fun _ _ closed => ?_
  subst opened nothing written closed
  apply Adds.pure
  exact ⟨arranged found, by simp [Token.operator, Token.operatorOf]⟩

/-! ## Attributes -/

/-- Attributes: contents between brackets, each behind the same marks. -/
def Attributes (marks tokens : List Token) : Prop :=
  ∃ contents : List (List Token),
    tokens = contents.flatMap fun content => marks ++ [.group .bracket content]

variable {marks : List Token} {read : Readers}

theorem Attributes.append {front back : List Token} (first : Attributes marks front)
    (second : Attributes marks back) : Attributes marks (front ++ back) := by
  obtain ⟨contents, rfl⟩ := first
  obtain ⟨others, rfl⟩ := second
  exact ⟨contents ++ others, List.flatMap_append.symm⟩

theorem adds_outerAttributes :
    Adds (outerAttributes read) fun _ => Attributes (Token.operator "#") := by
  refine adds_repeatingFrom Attributes.append (fun _ => ?_) ()
  refine Adds.bind (adds_sees_bind fun begins => ?_) fun _ _ added =>
    Adds.pure (by simpa using added)
  split
  · refine Adds.bind ?_ fun _ _ added => Adds.pure (by simpa using added)
    refine (adds_operator "#").bind fun _ _ marked => ?_
    refine (adds_group _ _).mono fun _ _ enclosed => ?_
    obtain ⟨content, rfl⟩ := enclosed
    subst marked
    exact ⟨[content], by simp⟩
  · exact Adds.pure ⟨[], rfl⟩

theorem adds_innerAttributes :
    Adds (innerAttributes read) fun _ =>
      Attributes (Token.operator "#" ++ Token.operator "!") := by
  refine adds_repeatingFrom Attributes.append (fun _ => ?_) ()
  refine Adds.bind (adds_sees_bind fun begins => ?_) fun _ _ added =>
    Adds.pure (by simpa using added)
  split
  · refine (adds_operator "#").bind fun _ _ first => ?_
    refine (adds_operator "!").bind fun _ _ second => ?_
    refine (adds_group _ _).bind fun _ _ enclosed => ?_
    obtain ⟨content, rfl⟩ := enclosed
    subst first second
    exact Adds.pure ⟨[content], by simp⟩
  · exact Adds.pure ⟨[], rfl⟩

end Grammar
end Source
end Assurance
