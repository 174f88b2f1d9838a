import Assurance.Proofs.Json.Values
import Assurance.Proofs.SafeInt.Codec

namespace Assurance

/-!
# Safe integers in front of other text

The readers of the narrow kinds find where a value ends by themselves, and so does
the scanner that passes over values without looking at them.  They agree: whatever
is read as a safe integer is a value on its own, which denotes what was read.  So
the reading of a value in front of other text is the reading of the value alone.

The wide kinds are left out, because they disagree: of `1.5` they read the `1`.

Main statement: `readSafeInt_append_eq_ok_iff`.
-/

namespace Json

variable {kind : IntKind}

theorem endsDigits_of_readNumeral {text digits rest : List Char}
    (read : readNumeral text = .ok (digits, rest)) : EndsDigits rest := by
  unfold readNumeral at read
  split at read
  · cases read
  · rename_i after
    split at read
    · cases read
    · rename_i stops
      cases read
      intro char first
      rw [Option.mem_def.mp first] at stops
      exact Bool.eq_false_iff.mpr stops
  · rename_i begin after notZero
    split at read
    · cases read
      intro char first
      have stops := List.head?_dropWhile_not Char.isDigit (begin :: after)
      rw [Option.mem_def.mp first] at stops
      exact stops
    · cases read

theorem endsNumber_of_readNumberTail {positive : Bool} {significand extra : Nat} {value : Int}
    {text rest : List Char}
    (read : readNumberTail positive significand extra text = .ok (.integer value, rest))
    (ends : EndsDigits text) : EndsNumber text := by
  unfold readNumberTail at read
  simp only at read
  split at read
  · exact absurd read readFraction_ne_integer
  · rename_i mark after notPoint
    split at read
    · exact absurd read readExponent_ne_integer
    · rename_i notMark
      rintro char ⟨⟩
      refine ⟨ends mark rfl, ?_, Bool.eq_false_iff.mpr notMark⟩
      rintro rfl
      exact notPoint rfl
  · exact endsNumber_nil

/-- What is behind a number that was read as an integer does not continue the number. -/
theorem endsNumber_of_readNumber {positive : Bool} {text rest : List Char} {value : Int}
    (read : readNumber positive text = .ok (.integer value, rest)) : EndsNumber rest := by
  unfold readNumber at read
  rcases bind_eq_ok_iff.mp read with ⟨⟨digits, after⟩, numeral, tail⟩
  cases (plain_of_readNumberTail tail).2.2
  exact endsNumber_of_readNumberTail tail (endsDigits_of_readNumeral numeral)

/-- The reader of the narrow kinds takes an integer in canonical form, and all of it. -/
theorem canonicalInteger_of_readNarrow {text rest : List Char} {word : Word kind}
    (read : readNarrow kind text = .ok (word, rest)) :
    ∃ integer, CanonicalInteger integer word.toInt ∧ skipBlanks text = integer ++ rest ∧
      EndsNumber rest := by
  unfold readNarrow at read
  split at read
  · cases read
  · rename_i after shape
    have number := integer_of_wordOfNumber read
    have ends := endsNumber_of_readNumber number
    rcases integer_of_readNumber number with ⟨digits, numeral, rfl, same⟩
    refine ⟨'-' :: digits, ⟨true, digits, numeral, ?_, rfl, same⟩, shape, ends⟩
    -- A negative zero is no integer.
    rintro - rfl
    rw [readNumber_of_lt numeral ends (by decide)] at number
    cases number
  · rename_i first after notMinus shape
    split at read
    · have number := integer_of_wordOfNumber read
      rcases integer_of_readNumber number with ⟨digits, numeral, split, same⟩
      exact ⟨digits, ⟨false, digits, numeral, nofun, rfl, same⟩, shape.trans split,
        endsNumber_of_readNumber number⟩
    · cases read

theorem skipScalar_signedDigits {negative : Bool} {digits rest : List Char}
    (numeral : Numeral digits) (ends : EndsNumber rest) :
    skipScalar (signedDigits negative digits ++ rest) = .ok (some rest) := by
  have number : (skipNumber (digits ++ rest)).map some = .ok (some rest) := by
    rw [skipNumber_append numeral ends.endsDigits ends.notPoint,
      skipExponent_of_endsNumber ends]
    rfl
  rcases signedDigits_append_eq_cons negative numeral rest with
    ⟨first, others, shape, ⟨rfl, rfl, rfl⟩ | ⟨rfl, digit, whole⟩⟩
  · exact number
  · rw [shape, skipScalar_of_isDigit digit, whole]
    exact number

theorem skipValue_of_skipScalar {text rest : List Char}
    (passed : skipScalar (skipBlanks text) = .ok (some rest)) : skipValue text = .ok rest := by
  simp only [skipValue, skipValueWithin, passed]
  change closeWithin (2 * text.length + 1) [] true rest = .ok rest
  simp only [closeWithin]

/-! ## Values that denote safe integers -/

/-- The values that denote safe integers. -/
inductive Denotes : List Char → SafeInt kind → Prop where
  | null : Denotes ['n', 'u', 'l', 'l'] (SafeInt.failure kind)
  | integer {value : List Char} {word : Word kind} (canonical : CanonicalInteger value word.toInt) :
      Denotes value (SafeInt.ofWord word)

theorem isValue_null : IsValue ['n', 'u', 'l', 'l'] where
  visible := rfl
  complete := skipValue_of_skipScalar rfl

theorem isValue_signedDigits (negative : Bool) {digits : List Char} (numeral : Numeral digits) :
    IsValue (signedDigits negative digits) := by
  have visible :
      skipBlanks (signedDigits negative digits ++ []) = signedDigits negative digits ++ [] :=
    skipBlanks_signedDigits numeral
  have scalar : skipScalar (signedDigits negative digits ++ []) = .ok (some []) :=
    skipScalar_signedDigits numeral endsNumber_nil
  rw [List.append_nil] at visible scalar
  exact ⟨visible, skipValue_of_skipScalar (visible.symm ▸ scalar)⟩

theorem Denotes.isValue {text : List Char} {value : SafeInt kind} (denotes : Denotes text value) :
    IsValue text := by
  cases denotes with
  | null => exact isValue_null
  | integer canonical =>
      rcases canonical with ⟨negative, digits, numeral, _, rfl, _⟩
      exact isValue_signedDigits negative numeral

theorem Denotes.canonical {text : List Char} {value : SafeInt kind}
    (denotes : Denotes text value) : value.Canonical := by
  cases denotes with
  | null => exact SafeInt.canonical_failure
  | integer => exact SafeInt.canonical_ofWord _

/-- The blanks in front of a safe integer make no difference. -/
theorem readSafeInt_append {blanks : List Char} (blank : ∀ char ∈ blanks, isBlank char = true)
    (text : List Char) : readSafeInt kind (blanks ++ text) = readSafeInt kind text := by
  simp only [readSafeInt, skipBlanks_append blank]

theorem Denotes.readSafeInt {text after : List Char} {value : SafeInt kind}
    (denotes : Denotes text value) (ends : EndsNumber after) :
    readSafeInt kind (text ++ after) = .ok (value, after) := by
  cases denotes with
  | null => rfl
  | integer canonical =>
      rcases canonical with ⟨negative, digits, numeral, noNegativeZero, rfl, same⟩
      exact (readSafeInt_eq_ok_iff numeral noNegativeZero ends).mpr ⟨⟨_, rfl, same⟩, rfl⟩

/-- What is read as a safe integer of a narrow kind is a value that denotes it, with blanks in front
of it, and the value is passed over just as it is read. -/
theorem exists_of_readSafeInt (narrow : kind.bits ≠ 128) {text rest : List Char}
    {value : SafeInt kind} (read : readSafeInt kind text = .ok (value, rest)) :
    ∃ blanks piece, (∀ char ∈ blanks, isBlank char = true) ∧ Denotes piece value ∧
      text = blanks ++ (piece ++ rest) ∧ skipValue text = .ok rest := by
  rcases blanks_append_skipBlanks text with ⟨blanks, blank, front⟩
  unfold Json.readSafeInt at read
  split at read
  · rename_i after shape
    rcases bind_eq_ok_iff.mp read with ⟨left, passed, same⟩
    cases same
    cases expect_eq_ok_iff.mp passed
    rw [shape] at front
    exact ⟨blanks, _, blank, .null, front, skipValue_of_skipScalar (shape.symm ▸ rfl)⟩
  · rcases bind_eq_ok_iff.mp read with ⟨⟨word, left⟩, found, same⟩
    cases same
    unfold readWord at found
    rw [if_neg narrow] at found
    rcases canonicalInteger_of_readNarrow found with ⟨integer, canonical, shape, ends⟩
    rw [skipBlanks_skipBlanks] at shape
    refine ⟨blanks, integer, blank, .integer canonical, front.trans (by rw [shape]),
      skipValue_of_skipScalar ?_⟩
    rcases canonical with ⟨negative, digits, numeral, _, rfl, _⟩
    rw [shape]
    exact skipScalar_signedDigits numeral ends

/-- A value of a narrow kind in front of other text is read if and only if it is read alone. -/
theorem readSafeInt_append_eq_ok_iff (narrow : kind.bits ≠ 128)
    {blanks piece after rest : List Char} {value : SafeInt kind}
    (blank : ∀ char ∈ blanks, isBlank char = true) (isValue : IsValue piece)
    (ends : EndsNumber after) :
    readSafeInt kind (blanks ++ (piece ++ after)) = .ok (value, rest) ↔
      Denotes piece value ∧ rest = after := by
  constructor
  · intro read
    rcases exists_of_readSafeInt narrow read with ⟨inner, found, innerBlank, denotes, shape, passed⟩
    rw [isValue.skipValue_append blank ends] at passed
    cases passed
    rw [← List.append_assoc, ← List.append_assoc] at shape
    have same := congrArg skipBlanks (List.append_cancel_right shape)
    rw [skipBlanks_append blank, skipBlanks_append innerBlank, isValue.visible,
      denotes.isValue.visible] at same
    exact ⟨same ▸ denotes, rfl⟩
  · rintro ⟨denotes, rfl⟩
    rw [readSafeInt_append blank]
    exact denotes.readSafeInt ends

end Json

namespace SafeInt

open Json

variable {kind : IntKind}

/-- A value denotes what the whole text denotes that consists of it. -/
theorem ofJson_eq_ok_iff_denotes (narrow : kind.bits ≠ 128) {text : String}
    (isValue : IsValue text.toList) {value : SafeInt kind} :
    ofJson kind text = .ok value ↔ Denotes text.toList value := by
  have alone : ∀ rest, readSafeInt kind text.toList = .ok (value, rest) ↔
      Denotes text.toList value ∧ rest = [] := by
    intro rest
    have inFront := @readSafeInt_append_eq_ok_iff kind narrow [] text.toList [] rest value nofun
      isValue endsNumber_nil
    rwa [List.nil_append, List.append_nil] at inFront
  rw [ofJson_eq_ok_iff_reads]
  constructor
  · rintro ⟨rest, read, _⟩
    exact ((alone rest).mp read).1
  · intro denotes
    exact ⟨[], (alone []).mpr ⟨denotes, rfl⟩, rfl⟩

theorem denotes_toJson (value : SafeInt kind) :
    Denotes value.toJson.toList (ofOption value.checked) := by
  unfold toJson
  cases value.checked with
  | none =>
      have null : "null".toList = ['n', 'u', 'l', 'l'] := rfl
      change Denotes "null".toList (failure kind)
      rw [null]
      exact .null
  | some word => exact .integer (canonicalInteger_text word)

end SafeInt

end Assurance
