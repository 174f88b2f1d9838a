import Assurance.Proofs.Json.Integer

namespace Assurance

/-!
# Integers in canonical form are read

The canonical form of an integer has no leading zeros and no sign on zero.  Every
integer has one, its numeral.  Read as a word, an integer in canonical form gives
itself if it is in the range of the kind, whatever comes behind it and whichever
way the reader goes: through a significand of 64 bits for the narrow kinds, or
through the digits alone for the wide ones.

Main statements: `canonicalInteger_write` for the form, `readWord_eq_ok_iff` for the
reader.
-/

namespace Json

/-- The canonical form of an integer: digits without a leading zero, and a minus sign exactly before
those of a negative integer. -/
def CanonicalInteger (text : List Char) (value : Int) : Prop :=
  ∃ negative digits, Numeral digits ∧ (negative = true → digits ≠ ['0']) ∧
    text = signedDigits negative digits ∧ value = signedValue negative digits

theorem head?_digits_ne_zero {value : Nat} (positive : 0 < value) :
    (Decimal.digits value).head? ≠ some '0' := by
  induction value using Nat.strongRecOn with
  | ind value inductionHypothesis =>
      have nonzero : ∀ digit < 10, 0 < digit → Nat.digitChar digit ≠ '0' := by decide
      by_cases short : value < 10
      · rw [Decimal.digits, Nat.toDigits_of_lt_base short, List.head?_cons]
        exact fun zero => nonzero value short positive (Option.some.inj zero)
      · have fewer : (Nat.toDigits 10 (value / 10)).head? ≠ some '0' :=
          inductionHypothesis (value / 10) (Nat.div_lt_self positive (by decide)) (by omega)
        rw [Decimal.digits, Nat.toDigits_of_base_le (by decide) (by omega)]
        cases front : Nat.toDigits 10 (value / 10) with
        | nil => exact absurd front Nat.toDigits_ne_nil
        | cons first others =>
            rw [front] at fewer
            exact fewer

theorem numeral_digits (value : Nat) : Numeral (Decimal.digits value) where
  decimal := fun _ => Decimal.isDigit_of_mem_digits
  nonempty := Nat.toDigits_ne_nil
  noLeadingZero := by
    intro zero
    rcases Nat.eq_zero_or_pos value with rfl | positive
    · rfl
    · exact absurd zero (head?_digits_ne_zero positive)

theorem value_digits (value : Nat) : Nat.ofDigitChars 10 (Decimal.digits value) 0 = value :=
  Nat.ofDigitChars_toDigits (by decide) (by decide)

/-- The numeral of an integer is a canonical form of it. -/
theorem canonicalInteger_write (value : Int) : CanonicalInteger (Decimal.write value) value := by
  unfold Decimal.write
  split
  · rename_i negative
    refine ⟨true, Decimal.digits value.natAbs, numeral_digits _, ?_, rfl, ?_⟩
    · rintro - zero
      have none := value_digits value.natAbs
      rw [zero] at none
      have : value.natAbs = 0 := none.symm
      omega
    · simp only [signedValue, value_digits, if_true]
      omega
  · refine ⟨false, Decimal.digits value.natAbs, numeral_digits _, nofun, rfl, ?_⟩
    simp only [signedValue, value_digits, Bool.false_eq_true, if_false]
    omega

theorem le_ofDigitChars (start : Nat) (digits : List Char) :
    start ≤ Nat.ofDigitChars 10 digits start := by
  induction digits generalizing start with
  | nil => exact Nat.le_refl _
  | cons digit digits inductionHypothesis =>
      rw [Nat.ofDigitChars_cons]
      exact Nat.le_trans (by omega) (inductionHypothesis _)

/-- Only zero has a numeral of value zero. -/
theorem Numeral.value_pos {digits : List Char} (numeral : Numeral digits)
    (nonzero : digits ≠ ['0']) : 0 < Nat.ofDigitChars 10 digits 0 := by
  cases digits with
  | nil => exact absurd rfl numeral.nonempty
  | cons first digits =>
      have notZero : first ≠ '0' := by
        rintro rfl
        exact nonzero (numeral.noLeadingZero rfl)
      have digit := numeral.decimal first List.mem_cons_self
      have least : '0'.toNat < first.toNat :=
        Nat.lt_of_le_of_ne (Char.isDigit_iff_toNat.mp digit).1
          fun same => notZero (Char.toNat_inj.mp same.symm)
      rw [Nat.ofDigitChars_cons]
      exact Nat.lt_of_lt_of_le (by omega) (le_ofDigitChars _ digits)

/-- A number below 2⁶⁴ is taken into a significand whole. -/
theorem extendSignificand_of_lt {start : Nat} {digits : List Char}
    (below : Nat.ofDigitChars 10 digits start < UInt64.size) :
    extendSignificand start digits = (Nat.ofDigitChars 10 digits start, digits.length) := by
  induction digits generalizing start with
  | nil => rfl
  | cons digit digits inductionHypothesis =>
      rw [Nat.ofDigitChars_cons, Nat.mul_comm] at below
      have fits : start * 10 + (digit.toNat - '0'.toNat) < UInt64.size :=
        Nat.lt_of_le_of_lt (le_ofDigitChars _ digits) below
      simp only [extendSignificand, if_pos fits, inductionHypothesis below]
      rw [Nat.ofDigitChars_cons, Nat.mul_comm]
      rfl

/-! ## What follows a number -/

/-- A text that does not continue digits which end before it. -/
def EndsDigits (rest : List Char) : Prop :=
  ∀ char ∈ rest.head?, char.isDigit = false

/-- A text that does not continue a number which ends before it. -/
def EndsNumber (rest : List Char) : Prop :=
  ∀ char ∈ rest.head?, char.isDigit = false ∧ char ≠ '.' ∧ isExponentMark char = false

theorem endsNumber_nil : EndsNumber [] := nofun

theorem EndsNumber.endsDigits {rest : List Char} (ends : EndsNumber rest) : EndsDigits rest :=
  fun char first => (ends char first).1

theorem takeWhile_of_endsDigits {rest : List Char} (ends : EndsDigits rest) :
    rest.takeWhile Char.isDigit = [] ∧ rest.dropWhile Char.isDigit = rest := by
  cases rest with
  | nil => exact ⟨rfl, rfl⟩
  | cons first rest =>
      have notDigit : ¬ first.isDigit = true := by
        rw [ends first rfl]
        exact Bool.false_ne_true
      exact ⟨List.takeWhile_cons_of_neg notDigit, List.dropWhile_cons_of_neg notDigit⟩

theorem readNumeral_append {digits rest : List Char} (numeral : Numeral digits)
    (ends : EndsDigits rest) : readNumeral (digits ++ rest) = .ok (digits, rest) := by
  rcases takeWhile_of_endsDigits ends with ⟨nothing, everything⟩
  have taken : (digits ++ rest).takeWhile Char.isDigit = digits := by
    rw [List.takeWhile_append_of_pos numeral.decimal, nothing, List.append_nil]
  have left : (digits ++ rest).dropWhile Char.isDigit = rest := by
    rw [List.dropWhile_append_of_pos numeral.decimal, everything]
  cases digits with
  | nil => exact absurd rfl numeral.nonempty
  | cons first others =>
      have digit := numeral.decimal first List.mem_cons_self
      rw [List.cons_append] at taken left ⊢
      unfold readNumeral
      split
      · rename_i empty
        cases empty
      · rename_i after same
        injection same with zero tail
        subst zero tail
        -- A numeral that begins with zero is zero alone, and no digit follows it.
        have alone : others = [] := List.tail_eq_of_cons_eq (numeral.noLeadingZero rfl)
        subst alone
        have stops : (rest.head?.map Char.isDigit).getD false = false := by
          cases rest with
          | nil => rfl
          | cons next rest => exact ends next rfl
        rw [List.nil_append, stops]
        rfl
      · rename_i same
        injection same with isFirst tail
        subst isFirst
        rw [if_pos digit, taken, left]

theorem readNumberTail_of_endsNumber {rest : List Char} (ends : EndsNumber rest)
    (positive : Bool) (significand : Nat) :
    readNumberTail positive significand 0 rest = .ok (signedInteger positive significand, rest) := by
  cases rest with
  | nil => rfl
  | cons next rest =>
      rcases ends next rfl with ⟨_, notPoint, notMark⟩
      unfold readNumberTail
      -- The branch of the point is ruled out by `notPoint`.
      simp only [notMark, Bool.false_eq_true, if_false]
      rfl

theorem readNumber_of_lt {digits rest : List Char} (numeral : Numeral digits)
    (ends : EndsNumber rest) (below : Nat.ofDigitChars 10 digits 0 < UInt64.size)
    (positive : Bool) :
    readNumber positive (digits ++ rest) =
      .ok (signedInteger positive (Nat.ofDigitChars 10 digits 0), rest) := by
  unfold readNumber
  rw [readNumeral_append numeral ends.endsDigits]
  change readNumberTail positive (extendSignificand 0 digits).1
    (digits.length - (extendSignificand 0 digits).2) rest = _
  rw [extendSignificand_of_lt below, Nat.sub_self]
  exact readNumberTail_of_endsNumber ends positive _

/-- Whatever is in the range of a kind of up to 64 bits passes through a significand. -/
theorem narrow_bounds {kind : IntKind} (narrow : kind.bits ≠ 128) :
    kind.max < UInt64.size ∧ -9223372036854775808 ≤ kind.min := by
  cases kind <;> first | exact absurd rfl narrow | decide

theorem not_isBlank_of_isDigit {char : Char} (digit : char.isDigit = true) :
    isBlank char = false := by
  have notLetter : ∀ letter, letter.isDigit = false → char ≠ letter := by
    rintro letter none rfl
    rw [none] at digit
    cases digit
  simp only [isBlank, Bool.or_eq_false_iff, beq_eq_false_iff_ne]
  exact ⟨⟨⟨notLetter ' ' rfl, notLetter '\n' rfl⟩, notLetter '\t' rfl⟩, notLetter '\r' rfl⟩

section Readers

variable {kind : IntKind} {negative : Bool} {digits rest : List Char}

/-- An integer begins with a minus sign or a digit. -/
theorem signedDigits_append_eq_cons (negative : Bool) (numeral : Numeral digits)
    (rest : List Char) :
    ∃ first others, signedDigits negative digits ++ rest = first :: others ∧
      (negative = true ∧ first = '-' ∧ others = digits ++ rest ∨
        negative = false ∧ first.isDigit = true ∧ first :: others = digits ++ rest) := by
  cases negative with
  | true => exact ⟨'-', digits ++ rest, rfl, Or.inl ⟨rfl, rfl, rfl⟩⟩
  | false =>
      cases digits with
      | nil => exact absurd rfl numeral.nonempty
      | cons first others =>
          have digit := numeral.decimal first List.mem_cons_self
          exact ⟨first, others ++ rest, rfl, Or.inr ⟨rfl, digit, rfl⟩⟩

theorem skipBlanks_signedDigits (numeral : Numeral digits) :
    skipBlanks (signedDigits negative digits ++ rest) = signedDigits negative digits ++ rest := by
  rcases signedDigits_append_eq_cons negative numeral rest with
    ⟨first, others, shape, ⟨_, rfl, _⟩ | ⟨_, digit, _⟩⟩
  · rw [shape]
    rfl
  · rw [shape]
    have visible : ¬ isBlank first = true := by
      rw [not_isBlank_of_isDigit digit]
      exact Bool.false_ne_true
    exact List.dropWhile_cons_of_neg visible

theorem readNarrow_signedDigits (numeral : Numeral digits) :
    readNarrow kind (signedDigits negative digits ++ rest) =
      wordOfNumber kind (readNumber (!negative) (digits ++ rest)) := by
  unfold readNarrow
  rw [skipBlanks_signedDigits numeral]
  rcases signedDigits_append_eq_cons negative numeral rest with
    ⟨first, others, shape, ⟨rfl, rfl, rfl⟩ | ⟨rfl, digit, whole⟩⟩
  · rw [shape]
    rfl
  · rw [shape, ← whole]
    split
    · rename_i empty
      cases empty
    · rename_i minus
      cases minus
      cases digit
    · rename_i same
      cases same
      rw [if_pos digit]
      rfl

theorem readWide_signedDigits (numeral : Numeral digits) :
    readWide kind (signedDigits negative digits ++ rest) =
      if negative && !kind.signed then .error .malformed
      else readSized kind negative (digits ++ rest) := by
  unfold readWide
  rw [skipBlanks_signedDigits numeral]
  rcases signedDigits_append_eq_cons negative numeral rest with
    ⟨first, others, shape, ⟨rfl, rfl, rfl⟩ | ⟨rfl, digit, whole⟩⟩
  · rw [shape]
    cases kind.signed <;> rfl
  · rw [shape, ← whole]
    split
    · rename_i empty
      cases empty
    · rename_i minus
      cases minus
      cases digit
    · rfl

theorem wordOfNumber_eq_ok_iff {number : Except Failure (Number × List Char)} {word : Word kind} :
    wordOfNumber kind number = .ok (word, rest) ↔ number = .ok (.integer word.toInt, rest) := by
  constructor
  · exact integer_of_wordOfNumber
  · rintro rfl
    simp only [wordOfNumber, Word.ofInt?_toInt]

/-- A word is in the range of a significand, so the narrow reader takes its digits whole. -/
theorem readNumber_of_word {word : Word kind} (narrow : kind.bits ≠ 128)
    (numeral : Numeral digits) (noNegativeZero : negative = true → digits ≠ ['0'])
    (ends : EndsNumber rest) (same : word.toInt = signedValue negative digits) :
    readNumber (!negative) (digits ++ rest) = .ok (.integer word.toInt, rest) := by
  have highest := Int.lt_of_le_of_lt word.inRange.2 (narrow_bounds narrow).1
  have lowest := Int.le_trans (narrow_bounds narrow).2 word.inRange.1
  cases negative with
  | true =>
      have positive := numeral.value_pos (noNegativeZero rfl)
      simp only [signedValue, if_true] at same
      have small : Nat.ofDigitChars 10 digits 0 ≤ 9223372036854775808 := by omega
      rw [readNumber_of_lt numeral ends (Nat.lt_of_le_of_lt small (by decide))]
      simp only [signedInteger, Bool.not_true, Bool.false_eq_true, if_false,
        if_pos (And.intro positive small), same]
  | false =>
      simp only [signedValue, Bool.false_eq_true, if_false] at same
      rw [same] at highest
      rw [readNumber_of_lt numeral ends (Int.ofNat_lt.mp highest), same]
      rfl

theorem readNarrow_eq_ok_iff {word : Word kind} {after : List Char} (narrow : kind.bits ≠ 128)
    (numeral : Numeral digits) (noNegativeZero : negative = true → digits ≠ ['0'])
    (ends : EndsNumber rest) :
    readNarrow kind (signedDigits negative digits ++ rest) = .ok (word, after) ↔
      word.toInt = signedValue negative digits ∧ after = rest := by
  rw [readNarrow_signedDigits numeral, wordOfNumber_eq_ok_iff]
  constructor
  · intro read
    rcases digits_of_readNumber read with ⟨found, numeralRead, same⟩
    rw [readNumeral_append numeral ends.endsDigits] at numeralRead
    cases numeralRead
    rw [Bool.not_not] at same
    exact ⟨same, rfl⟩
  · rintro ⟨same, rfl⟩
    exact readNumber_of_word narrow numeral noNegativeZero ends same

theorem readWide_eq_ok_iff {word : Word kind} {after : List Char}
    (numeral : Numeral digits) (noNegativeZero : negative = true → digits ≠ ['0'])
    (ends : EndsNumber rest) :
    readWide kind (signedDigits negative digits ++ rest) = .ok (word, after) ↔
      word.toInt = signedValue negative digits ∧ after = rest := by
  rw [readWide_signedDigits numeral]
  split
  · rename_i refused
    rw [Bool.and_eq_true, Bool.not_eq_true'] at refused
    rcases refused with ⟨rfl, unsigned⟩
    constructor
    · intro read
      cases read
    · rintro ⟨same, _⟩
      have positive := numeral.value_pos (noNegativeZero rfl)
      have least := word.inRange.1
      rw [IntKind.min_eq_zero_of_unsigned unsigned, same] at least
      simp only [signedValue, if_true] at least
      omega
  · unfold readSized
    rw [readNumeral_append numeral ends.endsDigits]
    rw [← Word.ofInt?_eq_some_iff]
    dsimp only [signedValue]
    split
    · rename_i found fits
      rw [fits]
      simp [eq_comm]
    · rename_i outside
      rw [outside]
      simp

/-- An integer in canonical form is read as the word that denotes it, and as nothing else: if it
has no word of the kind, then there is nothing to read. -/
theorem readWord_eq_ok_iff {word : Word kind} {after : List Char}
    (numeral : Numeral digits) (noNegativeZero : negative = true → digits ≠ ['0'])
    (ends : EndsNumber rest) :
    readWord kind (signedDigits negative digits ++ rest) = .ok (word, after) ↔
      word.toInt = signedValue negative digits ∧ after = rest := by
  unfold readWord
  split
  · exact readWide_eq_ok_iff numeral noNegativeZero ends
  · rename_i narrow
    exact readNarrow_eq_ok_iff narrow numeral noNegativeZero ends

end Readers

end Json

end Assurance
