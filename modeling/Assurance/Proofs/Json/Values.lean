import Assurance.Proofs.Json.Passage

namespace Assurance
namespace Json

/-!
# Values are passed over in one piece

A value is passed over in a piece of its own, whatever follows it, unless that
continues a number.  For arrays and objects this goes by the number of steps: a
value and what closes the brackets around it are passed over within limits that
suit the length of the piece, so the recursion of the scanner is followed with
the limit as the measure and the open brackets as they are.

Main statements: `IsValue.skipValue_append` and `exists_of_skipValue`.
-/

/-- The blanks in front of a text make no difference. -/
theorem skipBlanks_append {blanks : List Char} (blank : ∀ char ∈ blanks, isBlank char = true)
    (text : List Char) : skipBlanks (blanks ++ text) = skipBlanks text :=
  List.dropWhile_append_of_pos blank

theorem skipBlanks_cons {char : Char} (visible : isBlank char = false) (text : List Char) :
    skipBlanks (char :: text) = char :: text :=
  List.dropWhile_cons_of_neg (by rw [visible]; exact Bool.false_ne_true)

/-- What is left after blanks is blanks and that. -/
theorem exists_of_skipBlanks {text left : List Char} (skipped : skipBlanks text = left) :
    ∃ blanks, (∀ char ∈ blanks, isBlank char = true) ∧ text = blanks ++ left := by
  rw [← skipped]
  exact blanks_append_skipBlanks text

theorem not_isBlank_of_skipBlanks {text left : List Char} {char : Char}
    (skipped : skipBlanks text = char :: left) : isBlank char = false := by
  have stops := List.head?_dropWhile_not isBlank text
  unfold skipBlanks at skipped
  rw [skipped] at stops
  exact stops

theorem skipBlanks_skipBlanks (text : List Char) :
    skipBlanks (skipBlanks text) = skipBlanks text := by
  cases opened : skipBlanks text with
  | nil => rfl
  | cons char left => exact skipBlanks_cons (not_isBlank_of_skipBlanks opened) left

theorem exists_of_skipKey {text rest : List Char} (passed : skipKey text = .ok rest) :
    ∃ piece, text = piece ++ rest ∧ ∀ after, skipKey (piece ++ after) = .ok after := by
  unfold skipKey at passed
  split at passed
  · cases passed
  · rename_i quoted opened
    rcases exists_of_skipBlanks opened with ⟨blanks, blank, rfl⟩
    rcases bind_eq_ok_iff.mp passed with ⟨left, string, colon⟩
    rcases exists_of_skipString string with ⟨key, rfl, keyPassed⟩
    split at colon
    · cases colon
    · rename_i value separated
      cases colon
      rcases exists_of_skipBlanks separated with ⟨gap, gapBlank, rfl⟩
      refine ⟨blanks ++ ('"' :: key ++ (gap ++ [':'])), by simp, fun after => ?_⟩
      have shape : blanks ++ ('"' :: key ++ (gap ++ [':'])) ++ after =
          blanks ++ '"' :: (key ++ (gap ++ ':' :: after)) := by simp
      rw [shape, skipKey, skipBlanks_append blank, skipBlanks_cons rfl]
      refine bind_eq_ok_iff.mpr ⟨_, keyPassed _, ?_⟩
      rw [skipBlanks_append gapBlank, skipBlanks_cons rfl]
      rfl
    · cases colon
  · cases passed

theorem skipScalar_of_isDigit {first : Char} (digit : first.isDigit = true) (rest : List Char) :
    skipScalar (first :: rest) = (skipNumber (first :: rest)).map some := by
  have notLiteral : ∀ letter : Char, letter.isDigit = false → first ≠ letter := by
    rintro letter none rfl
    rw [digit] at none
    cases none
  unfold skipScalar
  split
  case h_1 same => cases same
  case h_9 same =>
    cases same
    exact if_pos digit
  all_goals
    rename_i same
    injection same with isLetter
    exact absurd isLetter (notLiteral _ rfl)

/-- A value that opens nothing is passed over in one piece, which does not begin with a blank. -/
theorem exists_of_skipScalar {text rest : List Char} (passed : skipScalar text = .ok (some rest)) :
    ∃ first others, text = first :: others ++ rest ∧ isBlank first = false ∧
      ∀ after, EndsNumber after → skipScalar (first :: others ++ after) = .ok (some after) := by
  have some_of_map : ∀ {scan : Except Failure (List Char)},
      scan.map some = .ok (some rest) → scan = .ok rest := by
    intro scan mapped
    rcases map_eq_ok_iff.mp mapped with ⟨left, scanned, same⟩
    cases same
    exact scanned
  have map_of_ok : ∀ {scan : Except Failure (List Char)} {after : List Char},
      scan = .ok after → scan.map some = .ok (some after) :=
    fun scanned => map_eq_ok_iff.mpr ⟨_, scanned, rfl⟩
  unfold skipScalar at passed
  split at passed
  case h_1 => cases passed
  case h_2 =>
    cases expect_eq_ok_iff.mp (some_of_map passed)
    exact ⟨'n', ['u', 'l', 'l'], rfl, rfl, fun _ _ => rfl⟩
  case h_3 =>
    cases expect_eq_ok_iff.mp (some_of_map passed)
    exact ⟨'t', ['r', 'u', 'e'], rfl, rfl, fun _ _ => rfl⟩
  case h_4 =>
    cases expect_eq_ok_iff.mp (some_of_map passed)
    exact ⟨'f', ['a', 'l', 's', 'e'], rfl, rfl, fun _ _ => rfl⟩
  case h_5 =>
    rcases exists_of_skipNumber (some_of_map passed) with ⟨first, others, rfl, _, numberPassed⟩
    exact ⟨'-', first :: others, rfl, rfl, fun after ends => map_of_ok (numberPassed after ends)⟩
  case h_6 =>
    rcases exists_of_skipString (some_of_map passed) with ⟨piece, rfl, stringPassed⟩
    exact ⟨'"', piece, rfl, rfl, fun after _ => map_of_ok (stringPassed after)⟩
  case h_7 => cases passed
  case h_8 => cases passed
  case h_9 =>
    split at passed
    · rcases exists_of_skipNumber (some_of_map passed) with
        ⟨first, others, shape, digit, numberPassed⟩
      refine ⟨first, others, shape, not_isBlank_of_isDigit digit, fun after ends => ?_⟩
      rw [List.cons_append, skipScalar_of_isDigit digit, ← List.cons_append]
      exact map_of_ok (numberPassed after ends)
    · cases passed

/-- A value that opens something begins with its bracket, and so does every other such text. -/
theorem exists_of_skipScalar_none {text : List Char} (opens : skipScalar text = .ok none) :
    ∃ bracket others, text = bracket :: others ∧ isBlank bracket = false ∧
      ∀ after, skipScalar (bracket :: after) = .ok none := by
  have not_none : ∀ {scan : Except Failure (List Char)}, scan.map some ≠ .ok none := by
    intro scan mapped
    rcases map_eq_ok_iff.mp mapped with ⟨left, _, same⟩
    cases same
  unfold skipScalar at opens
  split at opens
  case h_1 => cases opens
  case h_7 others => exact ⟨'[', others, rfl, rfl, fun _ => rfl⟩
  case h_8 others => exact ⟨'\x7b', others, rfl, rfl, fun _ => rfl⟩
  case h_9 =>
    split at opens
    · exact absurd opens not_none
    · cases opens
  all_goals exact absurd opens not_none

/-! ## Nested values -/

/-- Neither blanks nor a closing bracket nor a comma continue a number. -/
theorem endsNumber_of_closes {text : List Char}
    (closes : ∀ char ∈ text.head?, isBlank char = true ∨ char ∈ [']', '\x7d', ',']) :
    EndsNumber text := by
  intro char first
  rcases closes char first with blank | bracket
  · simp only [isBlank, Bool.or_eq_true, beq_iff_eq] at blank
    rcases blank with ((rfl | rfl) | rfl) | rfl <;> decide
  · simp only [List.mem_cons, List.not_mem_nil, or_false] at bracket
    rcases bracket with rfl | rfl | rfl <;> decide

theorem endsNumber_append {blanks text : List Char}
    (blank : ∀ char ∈ blanks, isBlank char = true) (ends : EndsNumber text) :
    EndsNumber (blanks ++ text) := by
  cases blanks with
  | nil => exact ends
  | cons first blanks =>
      refine endsNumber_of_closes ?_
      rintro char ⟨⟩
      exact Or.inl (blank first List.mem_cons_self)

theorem Open.close_closes (inner : Open) : inner.close ∈ [']', '\x7d', ','] := by
  cases inner <;> decide

theorem skipValueWithin_append {blanks : List Char}
    (blank : ∀ char ∈ blanks, isBlank char = true) (limit : Nat) (outer : List Open)
    (text : List Char) :
    skipValueWithin limit outer (blanks ++ text) = skipValueWithin limit outer text := by
  cases limit with
  | zero => simp only [skipValueWithin]
  | succ limit => simp only [skipValueWithin, skipBlanks_append blank]

/-- The next element of what is open: in an object there is a key in front of the value. -/
def skipElementWithin (limit : Nat) (outer : List Open) (text : List Char) :
    Open → Except Failure (List Char)
  | .array => skipValueWithin limit (.array :: outer) text
  | .object => do skipValueWithin limit (.object :: outer) (← skipKey text)

/-- The first character after the blanks decides what comes within an open bracket. -/
theorem closeWithin_append {blanks : List Char} {char : Char}
    (blank : ∀ char ∈ blanks, isBlank char = true) (visible : isBlank char = false)
    (limit : Nat) (inner : Open) (outer : List Open) (separated : Bool) (left : List Char) :
    closeWithin (limit + 1) (inner :: outer) separated (blanks ++ char :: left) =
      if char == inner.close then closeWithin limit outer true left
      else if separated && char != ',' then .error .malformed
      else skipElementWithin limit outer (if separated then left else char :: left) inner := by
  simp only [closeWithin, skipBlanks_append blank, skipBlanks_cons visible]
  cases inner <;> rfl

/-- A piece that is a value inside open brackets together with everything up to where they are all
closed.  The limit grows by two with each character. -/
def IsValueWithin (outer : List Open) (piece : List Char) : Prop :=
  ∀ after enough, EndsNumber after → 2 * piece.length + 1 ≤ enough →
    skipValueWithin enough outer (piece ++ after) = .ok after

/-- Such a piece with the key of the value in front, if the innermost bracket opens an object. -/
def IsElementWithin (inner : Open) (outer : List Open) (piece : List Char) : Prop :=
  ∀ after enough, EndsNumber after → 2 * piece.length + 1 ≤ enough →
    skipElementWithin enough outer (piece ++ after) inner = .ok after

/-- A piece that closes all open brackets, after a value (`separated`) or after an opening bracket.
A number in front of it ends there. -/
structure ClosesWithin (outer : List Open) (separated : Bool) (piece : List Char) : Prop where
  ends : separated = true → ∀ after, EndsNumber after → EndsNumber (piece ++ after)
  passed : ∀ after enough, EndsNumber after →
    2 * piece.length + (if separated then 1 else 2) ≤ enough →
      closeWithin enough outer separated (piece ++ after) = .ok after

section Pieces

variable {inner : Open} {outer : List Open} {separated : Bool} {blanks piece : List Char}

theorem closesWithin_nil (separated : Bool) : ClosesWithin [] separated [] where
  ends := fun _ after follows => follows
  passed := by
    intro after enough _ suits
    cases enough with
    | zero => cases separated <;> cases suits
    | succ enough => simp only [List.nil_append, closeWithin]

theorem ClosesWithin.bracket (closes : ClosesWithin outer true piece)
    (blank : ∀ char ∈ blanks, isBlank char = true) (inner : Open) (separated : Bool) :
    ClosesWithin (inner :: outer) separated (blanks ++ inner.close :: piece) where
  ends := by
    intro _ after _
    rw [List.append_assoc]
    refine endsNumber_append blank (endsNumber_of_closes ?_)
    rintro _ ⟨⟩
    exact Or.inr inner.close_closes
  passed := by
    intro after enough follows suits
    have visible : isBlank inner.close = false := by cases inner <;> rfl
    rw [List.length_append, List.length_cons] at suits
    rcases Nat.exists_eq_succ_of_ne_zero (show enough ≠ 0 by omega) with ⟨enough, rfl⟩
    rw [List.append_assoc, List.cons_append, closeWithin_append blank visible,
      if_pos (beq_self_eq_true _)]
    refine closes.passed after enough follows ?_
    rw [if_pos rfl]
    split at suits <;> omega

theorem IsElementWithin.closes_comma (element : IsElementWithin inner outer piece)
    (blank : ∀ char ∈ blanks, isBlank char = true) :
    ClosesWithin (inner :: outer) true (blanks ++ ',' :: piece) where
  ends := by
    intro _ after _
    rw [List.append_assoc]
    refine endsNumber_append blank (endsNumber_of_closes ?_)
    rintro _ ⟨⟩
    exact Or.inr (by decide)
  passed := by
    intro after enough follows suits
    have stays : ¬ (',' == inner.close) = true := by cases inner <;> decide
    rw [List.length_append, List.length_cons, if_pos rfl] at suits
    rcases Nat.exists_eq_succ_of_ne_zero (show enough ≠ 0 by omega) with ⟨enough, rfl⟩
    rw [List.append_assoc, List.cons_append, closeWithin_append blank rfl, if_neg stays]
    exact element after enough follows (by omega)

theorem IsElementWithin.closes_first {first : Char} {others : List Char}
    (element : IsElementWithin inner outer (first :: others))
    (blank : ∀ char ∈ blanks, isBlank char = true) (visible : isBlank first = false)
    (stays : ¬ (first == inner.close) = true) :
    ClosesWithin (inner :: outer) false (blanks ++ first :: others) where
  ends := nofun
  passed := by
    intro after enough follows suits
    rw [List.length_append, List.length_cons, if_neg Bool.false_ne_true] at suits
    rcases Nat.exists_eq_succ_of_ne_zero (show enough ≠ 0 by omega) with ⟨enough, rfl⟩
    rw [List.append_assoc, List.cons_append, closeWithin_append blank visible, if_neg stays]
    exact element after enough follows (by rw [List.length_cons]; omega)

end Pieces

/-- A value is passed over in such a piece, which does not begin with a blank. -/
def ValuePasses (limit : Nat) : Prop :=
  ∀ outer text rest, skipValueWithin limit outer text = .ok rest →
    ∃ blanks first others, (∀ char ∈ blanks, isBlank char = true) ∧ isBlank first = false ∧
      text = blanks ++ (first :: others ++ rest) ∧ IsValueWithin outer (first :: others)

/-- What closes the open brackets is passed over in such a piece. -/
def ClosePasses (limit : Nat) : Prop :=
  ∀ outer separated text rest, closeWithin limit outer separated text = .ok rest →
    ∃ piece, text = piece ++ rest ∧ ClosesWithin outer separated piece

theorem valuePasses_succ {limit : Nat} (closePasses : ClosePasses limit) :
    ValuePasses (limit + 1) := by
  intro outer text rest passed
  rcases blanks_append_skipBlanks text with ⟨blanks, blank, front⟩
  simp only [skipValueWithin] at passed
  rcases bind_eq_ok_iff.mp passed with ⟨left, scalar, others⟩
  cases left with
  | some left =>
      rcases exists_of_skipScalar scalar with ⟨first, more, shape, visible, scalarPassed⟩
      rcases closePasses outer true left rest others with ⟨piece, rfl, closes⟩
      refine ⟨blanks, first, more ++ piece, blank, visible, ?_,
        fun after enough follows suits => ?_⟩
      · rw [front, shape]
        simp only [List.cons_append, List.append_assoc]
      · rw [List.length_cons, List.length_append] at suits
        rcases Nat.exists_eq_succ_of_ne_zero (show enough ≠ 0 by omega) with ⟨enough, rfl⟩
        have scalarPassed := scalarPassed (piece ++ after) (closes.ends rfl after follows)
        simp only [List.cons_append, List.append_assoc] at scalarPassed ⊢
        simp only [skipValueWithin, skipBlanks_cons visible]
        refine bind_eq_ok_iff.mpr ⟨_, scalarPassed, closes.passed after enough follows ?_⟩
        rw [if_pos rfl]
        omega
  | none =>
      rcases exists_of_skipScalar_none scalar with ⟨bracket, more, shape, visible, opens⟩
      rw [shape] at others
      rcases closePasses _ false more rest others with ⟨piece, rfl, closes⟩
      refine ⟨blanks, bracket, piece, blank, visible, ?_, fun after enough follows suits => ?_⟩
      · rw [front, shape]
        rfl
      · rw [List.length_cons] at suits
        rcases Nat.exists_eq_succ_of_ne_zero (show enough ≠ 0 by omega) with ⟨enough, rfl⟩
        simp only [List.cons_append, skipValueWithin, skipBlanks_cons visible]
        refine bind_eq_ok_iff.mpr ⟨_, opens _, closes.passed after enough follows ?_⟩
        rw [if_neg Bool.false_ne_true]
        omega

theorem exists_of_skipElementWithin {limit : Nat} (valuePasses : ValuePasses limit) {inner : Open}
    {outer : List Open} {text rest : List Char}
    (passed : skipElementWithin limit outer text inner = .ok rest) :
    ∃ piece, piece ≠ [] ∧ text = piece ++ rest ∧ IsElementWithin inner outer piece := by
  cases inner with
  | array =>
      rcases valuePasses _ _ _ passed with ⟨blanks, first, others, blank, _, shape, isValue⟩
      refine ⟨blanks ++ first :: others, by simp, by simp [shape],
        fun after enough ends suits => ?_⟩
      rw [List.length_append] at suits
      rw [List.append_assoc, skipElementWithin, skipValueWithin_append blank]
      exact isValue after enough ends (by omega)
  | object =>
      rcases bind_eq_ok_iff.mp passed with ⟨left, key, value⟩
      rcases exists_of_skipKey key with ⟨keyPiece, rfl, keyPassed⟩
      rcases valuePasses _ _ _ value with ⟨blanks, first, others, blank, _, rfl, isValue⟩
      refine ⟨keyPiece ++ (blanks ++ first :: others), by simp, by simp,
        fun after enough ends suits => ?_⟩
      rw [List.length_append, List.length_append] at suits
      rw [List.append_assoc, List.append_assoc]
      refine bind_eq_ok_iff.mpr ⟨_, keyPassed _, ?_⟩
      rw [skipValueWithin_append blank]
      exact isValue after enough ends (by omega)

theorem closePasses_succ {limit : Nat} (valuePasses : ValuePasses limit)
    (closePasses : ClosePasses limit) : ClosePasses (limit + 1) := by
  rintro (_ | ⟨inner, outer⟩) separated text rest passed
  · simp only [closeWithin] at passed
    cases passed
    exact ⟨[], rfl, closesWithin_nil separated⟩
  · cases opened : skipBlanks text with
    | nil =>
        simp only [closeWithin, opened] at passed
        cases passed
    | cons char left =>
        rcases exists_of_skipBlanks opened with ⟨blanks, blank, rfl⟩
        have visible := not_isBlank_of_skipBlanks opened
        rw [closeWithin_append blank visible] at passed
        split at passed
        · rename_i isClose
          cases eq_of_beq isClose
          rcases closePasses outer true left rest passed with ⟨piece, rfl, closes⟩
          exact ⟨_, by simp, closes.bracket blank inner separated⟩
        · rename_i stays
          split at passed
          · cases passed
          · rename_i proceeds
            rcases exists_of_skipElementWithin valuePasses passed with
              ⟨piece, nonempty, shape, element⟩
            cases separated with
            | true =>
                have comma : char = ',' := by simpa using proceeds
                rw [if_pos rfl] at shape
                exact ⟨_, by simp [comma, shape], element.closes_comma blank⟩
            | false =>
                rcases List.exists_cons_of_ne_nil nonempty with ⟨first, others, rfl⟩
                rw [if_neg Bool.false_ne_true, List.cons_append, List.cons.injEq] at shape
                rcases shape with ⟨rfl, rfl⟩
                exact ⟨_, by simp, element.closes_first blank visible stays⟩

/-- Whatever is passed over within a limit is passed over in one piece. -/
theorem valuePasses_and_closePasses (limit : Nat) : ValuePasses limit ∧ ClosePasses limit := by
  induction limit with
  | zero =>
      constructor
      · intro outer text rest passed
        cases passed
      · intro outer separated text rest passed
        cases passed
  | succ limit inductionHypothesis =>
      exact ⟨valuePasses_succ inductionHypothesis.2,
        closePasses_succ inductionHypothesis.1 inductionHypothesis.2⟩

/-! ## Values that stand alone -/

/-- A JSON value without blanks in front of it and with nothing behind it. -/
structure IsValue (value : List Char) : Prop where
  visible : skipBlanks value = value
  complete : skipValue value = .ok []

theorem IsValue.skipValue_append {value blanks after : List Char} (isValue : IsValue value)
    (blank : ∀ char ∈ blanks, isBlank char = true) (ends : EndsNumber after) :
    skipValue (blanks ++ (value ++ after)) = .ok after := by
  rcases (valuePasses_and_closePasses _).1 _ _ _ isValue.complete with
    ⟨none, first, others, noneBlank, visible, shape, passed⟩
  have whole : value = first :: others := by
    rw [← isValue.visible, shape, skipBlanks_append noneBlank, List.append_nil,
      skipBlanks_cons visible]
  unfold skipValue
  rw [skipValueWithin_append blank, whole]
  refine passed after _ ends ?_
  simp only [List.length_append]
  omega

/-- Whatever is passed over is a value with blanks in front of it. -/
theorem exists_of_skipValue {text rest : List Char} (passed : skipValue text = .ok rest) :
    ∃ blanks value, (∀ char ∈ blanks, isBlank char = true) ∧ IsValue value ∧
      text = blanks ++ (value ++ rest) := by
  rcases (valuePasses_and_closePasses _).1 _ _ _ passed with
    ⟨blanks, first, others, blank, visible, shape, piecePassed⟩
  refine ⟨blanks, first :: others, blank, ⟨skipBlanks_cons visible others, ?_⟩, shape⟩
  have alone := piecePassed [] (2 * (first :: others).length + 2) endsNumber_nil (by omega)
  rwa [List.append_nil] at alone

end Json
end Assurance
