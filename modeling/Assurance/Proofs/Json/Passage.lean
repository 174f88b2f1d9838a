import Assurance.Proofs.Json.Canonical

namespace Assurance
namespace Json

/-!
# What scanners pass over

A scanner that succeeds has passed over a piece at the front of the text.  What
it makes of the piece does not depend on the text behind it: put another text
there and the scanner passes over the same piece with the same result.  For
strings that text is arbitrary; for numbers it must not continue the number.

The limits on recursion are part of this.  A piece of text is passed over within
any limit that suits its own length, so the limit that a scanner computes from a
longer or a shorter text makes no difference.

Main statements: `exists_of_readString` and `exists_of_skipNumber`.
-/

variable {ε α β : Type}

theorem bind_eq_ok_iff {first : Except ε α} {next : α → Except ε β} {result : β} :
    (first >>= next) = .ok result ↔ ∃ value, first = .ok value ∧ next value = .ok result := by
  cases first with
  | error failure => exact ⟨nofun, nofun⟩
  | ok value =>
      refine ⟨fun same => ⟨value, rfl, same⟩, ?_⟩
      rintro ⟨_, found, same⟩
      cases found
      exact same

theorem map_eq_ok_iff {first : Except ε α} {change : α → β} {result : β} :
    first.map change = .ok result ↔ ∃ value, first = .ok value ∧ change value = result := by
  cases first with
  | error failure => exact ⟨nofun, nofun⟩
  | ok value =>
      refine ⟨fun same => ⟨value, rfl, Except.ok.inj same⟩, ?_⟩
      rintro ⟨_, found, same⟩
      cases found
      exact congrArg Except.ok same

theorem expect_eq_ok_iff {wanted text rest : List Char} :
    expect wanted text = .ok rest ↔ text = wanted ++ rest := by
  induction wanted generalizing text with
  | nil => exact ⟨fun same => Except.ok.inj same, fun same => congrArg Except.ok same⟩
  | cons char wanted inductionHypothesis =>
      cases text with
      | nil => exact ⟨nofun, nofun⟩
      | cons found text =>
          rw [expect, List.cons_append, List.cons.injEq]
          by_cases same : found = char
          · rw [if_pos (beq_iff_eq.mpr same), inductionHypothesis]
            exact (and_iff_right same).symm
          · rw [if_neg (mt beq_iff_eq.mp same)]
            exact ⟨nofun, fun both => absurd both.1 same⟩

theorem length_le_byteLength (text : List Char) : text.length ≤ byteLength text := by
  have sums : ∀ (text : List Char) (start : Nat),
      start + text.length ≤ text.foldl (fun total char => total + char.utf8Size) start := by
    intro text
    induction text with
    | nil => exact fun start => Nat.le_refl _
    | cons char text inductionHypothesis =>
        intro start
        have size := char.utf8Size_pos
        have others := inductionHypothesis (start + char.utf8Size)
        rw [List.foldl_cons, List.length_cons]
        omega
  have sum := sums text 0
  rwa [Nat.zero_add] at sum

theorem length_of_mapM_hexDigit {text : List Char} {digits : List Nat}
    (found : text.mapM hexDigit? = some digits) : digits.length = text.length := by
  induction text generalizing digits with
  | nil =>
      cases found
      rfl
  | cons char text inductionHypothesis =>
      rw [List.mapM_cons] at found
      rcases Option.bind_eq_some_iff.mp found with ⟨digit, _, rest⟩
      rcases Option.bind_eq_some_iff.mp rest with ⟨others, othersFound, same⟩
      cases same
      rw [List.length_cons, List.length_cons, inductionHypothesis othersFound]

theorem exists_of_readHex {text rest : List Char} {unit : Nat}
    (found : readHex text = .ok (unit, rest)) :
    ∃ piece, text = piece ++ rest ∧ ∀ after, readHex (piece ++ after) = .ok (unit, after) := by
  unfold readHex at found
  split at found
  · cases found
  · split at found
    · rename_i first second third fourth digits
      cases found
      have four : (text.take 4).length = 4 := (length_of_mapM_hexDigit digits).symm
      refine ⟨text.take 4, (List.take_append_drop 4 text).symm, fun after => ?_⟩
      have enough : ¬ byteLength (text.take 4 ++ after) < 4 := by
        have least := length_le_byteLength (text.take 4 ++ after)
        rw [List.length_append, four] at least
        omega
      unfold readHex
      rw [if_neg enough, List.take_left' four, digits, List.drop_left' four]
    · cases found

theorem exists_of_readUnitEscape {text rest : List Char} {char : Char}
    (found : readUnitEscape text = .ok (char, rest)) :
    ∃ piece, text = piece ++ rest ∧
      ∀ after, readUnitEscape (piece ++ after) = .ok (char, after) := by
  unfold readUnitEscape at found
  rcases bind_eq_ok_iff.mp found with ⟨⟨unit, left⟩, hex, decided⟩
  rcases exists_of_readHex hex with ⟨digits, rfl, digitsRead⟩
  simp only at decided
  split at decided
  · cases decided
  · rename_i notTrailing
    split at decided
    · rename_i alone
      cases decided
      refine ⟨digits, rfl, fun after => ?_⟩
      unfold readUnitEscape
      rw [digitsRead]
      exact (if_neg notTrailing).trans (if_pos alone)
    · rename_i leading
      rcases bind_eq_ok_iff.mp decided with ⟨marked, mark, paired⟩
      rcases bind_eq_ok_iff.mp paired with ⟨⟨trailing, last⟩, trailingHex, joined⟩
      rcases exists_of_readHex trailingHex with ⟨trailingDigits, rfl, trailingRead⟩
      cases expect_eq_ok_iff.mp mark
      simp only at joined
      split at joined
      · cases joined
      · rename_i isTrailing
        rcases Prod.mk.inj (Except.ok.inj joined) with ⟨rfl, rfl⟩
        refine ⟨digits ++ (['\\', 'u'] ++ trailingDigits), by simp only [List.append_assoc], ?_⟩
        intro after
        have marksPassed : expect ['\\', 'u'] (['\\', 'u'] ++ (trailingDigits ++ after)) =
            .ok (trailingDigits ++ after) := expect_eq_ok_iff.mpr rfl
        unfold readUnitEscape
        rw [List.append_assoc, List.append_assoc, digitsRead]
        refine (if_neg notTrailing).trans ((if_neg leading).trans ?_)
        rw [bind_eq_ok_iff]
        refine ⟨_, marksPassed, bind_eq_ok_iff.mpr ⟨_, trailingRead after, if_neg isTrailing⟩⟩

theorem exists_of_readEscape {text rest : List Char} {char : Char}
    (found : readEscape text = .ok (char, rest)) :
    ∃ piece, text = piece ++ rest ∧ ∀ after, readEscape (piece ++ after) = .ok (char, after) := by
  unfold readEscape at found
  split at found
  · cases found
  · rename_i unitText
    rcases exists_of_readUnitEscape found with ⟨piece, rfl, pieceRead⟩
    exact ⟨'u' :: piece, rfl, pieceRead⟩
  · rename_i mark left notUnit
    split at found
    · rename_i short
      cases found
      refine ⟨[mark], rfl, fun after => ?_⟩
      rw [List.singleton_append, readEscape, short]
      exact notUnit
    · cases found

theorem exists_of_skipEscape {text rest : List Char} (passed : skipEscape text = .ok rest) :
    ∃ piece, text = piece ++ rest ∧ ∀ after, skipEscape (piece ++ after) = .ok after := by
  unfold skipEscape at passed
  split at passed
  · cases passed
  · rename_i unitText
    rcases map_eq_ok_iff.mp passed with ⟨⟨unit, left⟩, hex, rfl⟩
    rcases exists_of_readHex hex with ⟨digits, rfl, digitsRead⟩
    refine ⟨'u' :: digits, rfl, fun after => ?_⟩
    rw [List.cons_append, skipEscape, digitsRead]
    rfl
  · rename_i mark left notUnit
    split at passed
    · rename_i short
      cases passed
      refine ⟨[mark], rfl, fun after => ?_⟩
      rw [List.singleton_append, skipEscape, if_pos short]
      exact notUnit
    · cases passed

/-! ## Strings -/

theorem exists_of_readStringWithin {limit : Nat} {text chars rest : List Char}
    (found : readStringWithin limit text = .ok (chars, rest)) :
    ∃ piece, text = piece ++ '"' :: rest ∧ ∀ (after : List Char) (enough : Nat),
      piece.length < enough →
        readStringWithin enough (piece ++ '"' :: after) = .ok (chars, after) := by
  induction limit generalizing text chars with
  | zero => cases found
  | succ limit inductionHypothesis =>
      unfold readStringWithin at found
      split at found
      · cases found
      · cases found
      · cases found
        refine ⟨[], rfl, fun after enough suits => ?_⟩
        cases enough with
        | zero => cases suits
        | succ enough => rfl
      · rename_i escaped successor
        cases successor
        rcases bind_eq_ok_iff.mp found with ⟨⟨char, left⟩, escape, others⟩
        rcases exists_of_readEscape escape with ⟨escapePiece, rfl, escapeRead⟩
        rcases bind_eq_ok_iff.mp others with ⟨⟨others, last⟩, inner, same⟩
        cases same
        rcases inductionHypothesis inner with ⟨piece, rfl, pieceRead⟩
        refine ⟨'\\' :: (escapePiece ++ piece), by simp, fun after enough suits => ?_⟩
        cases enough with
        | zero => cases suits
        | succ enough =>
            have within : piece.length < enough := by
              simp only [List.length_cons, List.length_append] at suits
              omega
            rw [List.cons_append, List.append_assoc, readStringWithin]
            refine bind_eq_ok_iff.mpr ⟨_, escapeRead _, ?_⟩
            exact bind_eq_ok_iff.mpr ⟨_, pieceRead after enough within, rfl⟩
      · rename_i char left notQuote notEscape successor
        cases successor
        split at found
        · cases found
        · rename_i printable
          rcases bind_eq_ok_iff.mp found with ⟨⟨others, last⟩, inner, same⟩
          cases same
          rcases inductionHypothesis inner with ⟨piece, rfl, pieceRead⟩
          refine ⟨char :: piece, rfl, fun after enough suits => ?_⟩
          cases enough with
          | zero => cases suits
          | succ enough =>
              have within : piece.length < enough := Nat.lt_of_succ_lt_succ suits
              rw [List.cons_append, readStringWithin, if_neg printable]
              · exact bind_eq_ok_iff.mpr ⟨_, pieceRead after enough within, rfl⟩
              · exact notQuote
              · exact notEscape

/-- A string is read from the piece up to its closing quote, whatever follows. -/
theorem exists_of_readString {text chars rest : List Char}
    (found : readString text = .ok (chars, rest)) :
    ∃ spelling, text = spelling ++ '"' :: rest ∧
      ∀ after, readString (spelling ++ '"' :: after) = .ok (chars, after) := by
  rcases exists_of_readStringWithin found with ⟨spelling, shape, spellingRead⟩
  refine ⟨spelling, shape, fun after => spellingRead after _ ?_⟩
  simp only [List.length_append, List.length_cons]
  omega

theorem exists_of_skipStringWithin {limit : Nat} {text rest : List Char}
    (passed : skipStringWithin limit text = .ok rest) :
    ∃ piece, text = piece ++ rest ∧ ∀ (after : List Char) (enough : Nat),
      piece.length ≤ enough → skipStringWithin enough (piece ++ after) = .ok after := by
  induction limit generalizing text with
  | zero => cases passed
  | succ limit inductionHypothesis =>
      unfold skipStringWithin at passed
      split at passed
      · cases passed
      · cases passed
      · cases passed
        refine ⟨['"'], rfl, fun after enough suits => ?_⟩
        cases enough with
        | zero => cases suits
        | succ enough => rfl
      · rename_i escaped successor
        cases successor
        rcases bind_eq_ok_iff.mp passed with ⟨left, escape, inner⟩
        rcases exists_of_skipEscape escape with ⟨escapePiece, rfl, escapePassed⟩
        rcases inductionHypothesis inner with ⟨piece, rfl, piecePassed⟩
        refine ⟨'\\' :: (escapePiece ++ piece), by simp, fun after enough suits => ?_⟩
        cases enough with
        | zero => cases suits
        | succ enough =>
            have within : piece.length ≤ enough := by
              simp only [List.length_cons, List.length_append] at suits
              omega
            rw [List.cons_append, List.append_assoc, skipStringWithin]
            exact bind_eq_ok_iff.mpr ⟨_, escapePassed _, piecePassed after enough within⟩
      · rename_i char left notQuote notEscape successor
        cases successor
        split at passed
        · cases passed
        · rename_i printable
          rcases inductionHypothesis passed with ⟨piece, rfl, piecePassed⟩
          refine ⟨char :: piece, rfl, fun after enough suits => ?_⟩
          cases enough with
          | zero => cases suits
          | succ enough =>
              rw [List.cons_append, skipStringWithin, if_neg printable]
              · exact piecePassed after enough (Nat.le_of_succ_le_succ suits)
              · exact notQuote
              · exact notEscape

theorem exists_of_skipString {text rest : List Char} (passed : skipString text = .ok rest) :
    ∃ piece, text = piece ++ rest ∧ ∀ after, skipString (piece ++ after) = .ok after := by
  rcases exists_of_skipStringWithin passed with ⟨piece, shape, piecePassed⟩
  refine ⟨piece, shape, fun after => piecePassed after _ ?_⟩
  rw [List.length_append]
  omega

/-! ## Numbers -/

theorem exists_of_skipDigits {text rest : List Char} (passed : skipDigits text = .ok rest) :
    ∃ first others, text = first :: others ++ rest ∧ first.isDigit = true ∧
      ∀ after, EndsDigits after → skipDigits (first :: others ++ after) = .ok after := by
  unfold skipDigits at passed
  split at passed
  · cases passed
  · rename_i some
    cases passed
    cases taken : text.takeWhile Char.isDigit with
    | nil => exact absurd (by rw [taken]; rfl) some
    | cons first others =>
        have decimal : ∀ char ∈ first :: others, char.isDigit = true := by
          rw [← taken]
          exact List.all_eq_true.mp List.all_takeWhile
        refine ⟨first, others, ?_, decimal first List.mem_cons_self, fun after ends => ?_⟩
        · rw [← taken, List.takeWhile_append_dropWhile]
        · rcases takeWhile_of_endsDigits ends with ⟨nothing, everything⟩
          unfold skipDigits
          rw [List.takeWhile_append_of_pos decimal, List.dropWhile_append_of_pos decimal,
            everything]
          rfl

theorem not_isDigit_of_isExponentMark {mark : Char} (marks : isExponentMark mark = true) :
    mark.isDigit = false := by
  unfold isExponentMark at marks
  rcases (Bool.or_eq_true _ _).mp marks with small | great
  · rw [eq_of_beq small]
    rfl
  · rw [eq_of_beq great]
    rfl

theorem EndsNumber.notPoint {rest : List Char} (ends : EndsNumber rest) :
    ∀ char ∈ rest.head?, char ≠ '.' :=
  fun char first => (ends char first).2.1

theorem skipExponent_of_endsNumber {after : List Char} (ends : EndsNumber after) :
    skipExponent after = .ok after := by
  cases after with
  | nil => rfl
  | cons next after => exact if_neg (Bool.eq_false_iff.mp (ends next rfl).2.2)

/-- Passes over what follows the mark of an exponent: digits, which may have a sign. -/
def skipPower : List Char → Except Failure (List Char)
  | '+' :: digits => skipDigits digits
  | '-' :: digits => skipDigits digits
  | digits => skipDigits digits

theorem skipExponent_of_mark {mark : Char} (marks : isExponentMark mark = true)
    (text : List Char) : skipExponent (mark :: text) = skipPower text :=
  if_pos marks

/-- A digit is no sign, so digits are passed over as they stand. -/
theorem skipPower_of_isDigit {first : Char} (digit : first.isDigit = true) (text : List Char) :
    skipPower (first :: text) = skipDigits (first :: text) := by
  unfold skipPower
  split
  · rename_i same
    cases same
    cases digit
  · rename_i same
    cases same
    cases digit
  · rfl

theorem exists_of_skipPower {text rest : List Char} (passed : skipPower text = .ok rest) :
    ∃ piece, text = piece ++ rest ∧
      ∀ after, EndsDigits after → skipPower (piece ++ after) = .ok after := by
  unfold skipPower at passed
  split at passed
  · rcases exists_of_skipDigits passed with ⟨first, others, rfl, _, digitsPassed⟩
    exact ⟨'+' :: first :: others, rfl, digitsPassed⟩
  · rcases exists_of_skipDigits passed with ⟨first, others, rfl, _, digitsPassed⟩
    exact ⟨'-' :: first :: others, rfl, digitsPassed⟩
  · rcases exists_of_skipDigits passed with ⟨first, others, rfl, digit, digitsPassed⟩
    refine ⟨first :: others, rfl, fun after ends => ?_⟩
    rw [List.cons_append, skipPower_of_isDigit digit]
    exact digitsPassed after ends

/-- An exponent is passed over, if there is one; what begins with it ends the digits before it, and
brings no point. -/
theorem exists_of_skipExponent {text rest : List Char} (passed : skipExponent text = .ok rest) :
    ∃ piece, text = piece ++ rest ∧ ∀ after, EndsNumber after →
      (EndsDigits (piece ++ after) ∧ ∀ char ∈ (piece ++ after).head?, char ≠ '.') ∧
        skipExponent (piece ++ after) = .ok after := by
  have nothing : ∀ after, EndsNumber after →
      (EndsDigits after ∧ ∀ char ∈ after.head?, char ≠ '.') ∧ skipExponent after = .ok after :=
    fun after ends => ⟨⟨ends.endsDigits, ends.notPoint⟩, skipExponent_of_endsNumber ends⟩
  cases text with
  | nil =>
      cases passed
      exact ⟨[], rfl, nothing⟩
  | cons mark text =>
      by_cases marks : isExponentMark mark = true
      · rw [skipExponent_of_mark marks] at passed
        rcases exists_of_skipPower passed with ⟨piece, rfl, powerPassed⟩
        refine ⟨mark :: piece, rfl, fun after ends => ⟨⟨?_, ?_⟩, ?_⟩⟩
        · rintro char ⟨⟩
          exact not_isDigit_of_isExponentMark marks
        · rintro char ⟨⟩ rfl
          cases marks
        · rw [List.cons_append, skipExponent_of_mark marks]
          exact powerPassed after ends.endsDigits
      · have unmarked : skipExponent (mark :: text) = .ok (mark :: text) := if_neg marks
        rw [unmarked] at passed
        cases passed
        exact ⟨[], rfl, nothing⟩

/-- Behind the digits of a number without a fraction there may be an exponent. -/
theorem skipNumber_append {numeral text : List Char} (isNumeral : Numeral numeral)
    (ends : EndsDigits text) (notPoint : ∀ char ∈ text.head?, char ≠ '.') :
    skipNumber (numeral ++ text) = skipExponent text := by
  rw [skipNumber, readNumeral_append isNumeral ends]
  split
  · rename_i failed
    cases failed
  · rename_i fraction same
    have point := (Prod.mk.inj (Except.ok.inj same)).2
    exact absurd rfl (notPoint '.' (by rw [point]; rfl))
  · rename_i same
    rw [← (Prod.mk.inj (Except.ok.inj same)).2]

/-- Whatever stands behind a numeral, its first digit is the first character of the whole. -/
theorem Numeral.append_eq_cons {numeral : List Char} (isNumeral : Numeral numeral)
    (text : List Char) :
    ∃ first others, numeral ++ text = first :: others ∧ first.isDigit = true := by
  cases numeral with
  | nil => exact absurd rfl isNumeral.nonempty
  | cons first others =>
      exact ⟨first, others ++ text, rfl, isNumeral.decimal first List.mem_cons_self⟩

/-- A number is passed over up to where it ends. -/
theorem exists_of_skipNumber {text rest : List Char} (passed : skipNumber text = .ok rest) :
    ∃ first others, text = first :: others ++ rest ∧ first.isDigit = true ∧
      ∀ after, EndsNumber after → skipNumber (first :: others ++ after) = .ok after := by
  unfold skipNumber at passed
  split at passed
  · cases passed
  · rename_i numeral fraction numeralRead
    rcases numeral_of_readNumeral numeralRead with ⟨isNumeral, rfl⟩
    rcases bind_eq_ok_iff.mp passed with ⟨exponent, digits, exponentPassed⟩
    rcases exists_of_skipDigits digits with ⟨digit, more, rfl, _, digitsPassed⟩
    rcases exists_of_skipExponent exponentPassed with ⟨piece, rfl, piecePassed⟩
    rcases isNumeral.append_eq_cons ('.' :: (digit :: more ++ piece)) with
      ⟨first, others, shape, isDigit⟩
    refine ⟨first, others, ?_, isDigit, fun after ends => ?_⟩
    · rw [← shape]
      simp only [List.append_assoc, List.cons_append]
    · have point : EndsDigits ('.' :: (digit :: more ++ (piece ++ after))) := by
        rintro char ⟨⟩
        rfl
      have numeralRead := readNumeral_append isNumeral point
      have whole : first :: others ++ after =
          numeral ++ '.' :: (digit :: more ++ (piece ++ after)) := by
        rw [← shape]
        simp only [List.append_assoc, List.cons_append]
      rw [whole, skipNumber, numeralRead]
      rcases piecePassed after ends with ⟨⟨endsDigits, _⟩, exponentPassed⟩
      exact bind_eq_ok_iff.mpr ⟨_, digitsPassed _ endsDigits, exponentPassed⟩
  · rename_i numeral exponent noPoint numeralRead
    rcases numeral_of_readNumeral numeralRead with ⟨isNumeral, rfl⟩
    rcases exists_of_skipExponent passed with ⟨piece, rfl, piecePassed⟩
    rcases isNumeral.append_eq_cons piece with ⟨first, others, shape, isDigit⟩
    refine ⟨first, others, ?_, isDigit, fun after ends => ?_⟩
    · rw [← shape, List.append_assoc]
    · rcases piecePassed after ends with ⟨⟨endsDigits, notPoint⟩, exponentPassed⟩
      rw [← shape, List.append_assoc, skipNumber_append isNumeral endsDigits notPoint]
      exact exponentPassed

end Json
end Assurance
