import Assurance.Proofs.Json.Canonical
import Assurance.Proofs.SafeInt.Poison

namespace Assurance

/-!
# Safe integers through JSON

Writing and reading are inverse to each other on the values that can be built.
A text with an integer in canonical form has two outcomes only, which depend on
the range of the kind alone: the valid value of that integer, or an error.  The
third outcome of the reader, the poisoned value, is left to `null`.

Main statement: `SafeInt.json_codec_exact`.
-/

namespace Json

variable {kind : IntKind} {negative : Bool} {digits rest : List Char}

/-- No integer begins like `null`, so an integer goes to the reader of words. -/
theorem readSafeInt_signedDigits (numeral : Numeral digits) :
    readSafeInt kind (signedDigits negative digits ++ rest) =
      (readWord kind (signedDigits negative digits ++ rest)).map
        fun (word, after) => (SafeInt.ofWord word, after) := by
  have notNull : ∀ after, signedDigits negative digits ++ rest ≠ 'n' :: after := by
    intro after null
    rcases signedDigits_append_eq_cons negative numeral rest with
      ⟨first, others, shape, ⟨_, minus, _⟩ | ⟨_, digit, _⟩⟩
    · rw [shape, minus] at null
      cases null
    · rw [shape] at null
      cases null
      cases digit
  unfold readSafeInt
  rw [skipBlanks_signedDigits numeral]
  split
  · rename_i after null
    exact absurd null (notNull after)
  · cases readWord kind (signedDigits negative digits ++ rest) <;> rfl

theorem readSafeInt_eq_ok_iff {value : SafeInt kind} {after : List Char}
    (numeral : Numeral digits) (noNegativeZero : negative = true → digits ≠ ['0'])
    (ends : EndsNumber rest) :
    readSafeInt kind (signedDigits negative digits ++ rest) = .ok (value, after) ↔
      (∃ word, value = SafeInt.ofWord word ∧ word.toInt = signedValue negative digits) ∧
        after = rest := by
  rw [readSafeInt_signedDigits numeral]
  constructor
  · intro read
    cases found : readWord kind (signedDigits negative digits ++ rest) with
    | error failure =>
        rw [found] at read
        cases read
    | ok pair =>
        rcases pair with ⟨word, left⟩
        rw [found] at read
        cases read
        rcases (readWord_eq_ok_iff numeral noNegativeZero ends).mp found with ⟨same, nothing⟩
        exact ⟨⟨word, rfl, same⟩, nothing⟩
  · rintro ⟨⟨word, rfl, same⟩, rfl⟩
    have read : readWord kind (signedDigits negative digits ++ after) = .ok (word, after) :=
      (readWord_eq_ok_iff numeral noNegativeZero ends).mpr ⟨same, rfl⟩
    rw [read]
    rfl

end Json

namespace SafeInt

open Json

variable {kind : IntKind}

theorem ofJson_null (kind : IntKind) : ofJson kind "null" = .ok (failure kind) :=
  rfl

/-- An integer in canonical form denotes its word, if there is one, and nothing otherwise. -/
theorem ofJson_eq_ok_iff {text : String} {number : Int} {value : SafeInt kind}
    (canonical : CanonicalInteger text.toList number) :
    ofJson kind text = .ok value ↔ ∃ word, value = ofWord word ∧ word.toInt = number := by
  rcases canonical with ⟨negative, digits, numeral, noNegativeZero, shape, rfl⟩
  have reads : ∀ rest, readSafeInt kind text.toList = .ok (value, rest) ↔
      (∃ word, value = ofWord word ∧ word.toInt = signedValue negative digits) ∧ rest = [] := by
    intro rest
    rw [shape, ← List.append_nil (signedDigits negative digits)]
    exact readSafeInt_eq_ok_iff numeral noNegativeZero endsNumber_nil
  rw [ofJson_eq_ok_iff_reads]
  constructor
  · rintro ⟨rest, read, _⟩
    exact ((reads rest).mp read).1
  · intro denoted
    exact ⟨[], (reads []).mpr ⟨denoted, rfl⟩, rfl⟩

theorem ofJson_of_inRange {text : String} {number : Int}
    (canonical : CanonicalInteger text.toList number) (inside : kind.InRange number) :
    ofJson kind text = .ok (ofWord ⟨number, inside⟩) :=
  (ofJson_eq_ok_iff canonical).mpr ⟨⟨number, inside⟩, rfl, rfl⟩

theorem ofJson_of_not_inRange {text : String} {number : Int}
    (canonical : CanonicalInteger text.toList number) (outside : ¬ kind.InRange number) :
    ∃ failure, ofJson kind text = .error failure := by
  cases decoded : ofJson kind text with
  | error failure => exact ⟨failure, rfl⟩
  | ok value =>
      rcases (ofJson_eq_ok_iff canonical).mp decoded with ⟨word, _, same⟩
      exact absurd (same ▸ word.inRange) outside

theorem toJson_of_valid {value : SafeInt kind} (valid : value.poisoned = false) :
    value.toJson = value.stored.text := by
  simp only [toJson, checked, valid, Bool.false_eq_true, if_false]

/-- The text without directives is the numeral. -/
theorem text_of_valid {value : SafeInt kind} (valid : value.poisoned = false) :
    value.text = value.stored.text := by
  simp only [text, display, valid, Bool.false_eq_true, if_false, Word.text, Decimal.text]
  congr 1
  simp only [Word.showDecimal, Layout.layNumber, Layout.sign, Decimal.write, decide_eq_true_iff]
  split <;> rfl

theorem canonicalInteger_text (word : Word kind) :
    CanonicalInteger word.text.toList word.toInt := by
  rw [Word.text, Decimal.text, String.toList_ofList]
  exact canonicalInteger_write word.toInt

/-- Reading what was written gives what can be read from the value. -/
theorem ofJson_toJson (value : SafeInt kind) :
    ofJson kind value.toJson = .ok (ofOption value.checked) := by
  unfold toJson
  cases value.checked with
  | none => exact ofJson_null kind
  | some word => exact ofJson_of_inRange (canonicalInteger_text word) word.inRange

theorem toJson_eq_null_iff {value : SafeInt kind} :
    value.toJson = "null" ↔ value.poisoned = true := by
  rw [← checked_eq_none_iff]
  constructor
  · intro null
    have decoded := ofJson_toJson value
    rw [null, ofJson_null] at decoded
    rw [← checked_ofOption value.checked, ← Except.ok.inj decoded]
    rfl
  · intro unread
    rw [toJson, unread]

theorem ofJson_toJson_of_reached {value : SafeInt kind} (reached : Reached ⟨kind, value⟩) :
    ofJson kind value.toJson = .ok value := by
  have canonical : value.Canonical := canonical_of_reached reached
  rw [ofJson_toJson, ofOption_checked canonical]

/-- Every value that operations can lead to comes back from its JSON form, word and mark, so that
different values have different forms; the form is `null` for a poisoned value and the plain text
for a valid one.  And every integer in canonical form denotes its valid value if the kind has it,
and is an error if not. -/
theorem json_codec_exact (kind : IntKind) :
    (∀ value : SafeInt kind, Reached ⟨kind, value⟩ → ofJson kind value.toJson = .ok value) ∧
    (∀ left right : SafeInt kind, Reached ⟨kind, left⟩ → Reached ⟨kind, right⟩ →
      left.toJson = right.toJson → left = right) ∧
    (∀ value : SafeInt kind, (value.toJson = "null" ↔ value.poisoned = true) ∧
      (value.poisoned = false → value.toJson = value.text)) ∧
    (∀ (text : String) (number : Int), CanonicalInteger text.toList number →
      (∀ inside : kind.InRange number, ofJson kind text = .ok (ofWord ⟨number, inside⟩)) ∧
      (¬ kind.InRange number → ∃ failure, ofJson kind text = .error failure)) ∧
    ∀ number : Int, CanonicalInteger (Decimal.text number).toList number := by
  refine ⟨fun _ reached => ofJson_toJson_of_reached reached, ?_, ?_, ?_, ?_⟩
  · intro left right leftReached rightReached same
    have decoded := ofJson_toJson_of_reached leftReached
    rw [same, ofJson_toJson_of_reached rightReached] at decoded
    exact (Except.ok.inj decoded).symm
  · intro value
    refine ⟨toJson_eq_null_iff, ?_⟩
    intro valid
    rw [toJson_of_valid valid, text_of_valid valid]
  · intro text number canonical
    exact ⟨ofJson_of_inRange canonical, ofJson_of_not_inRange canonical⟩
  · intro number
    rw [Decimal.text, String.toList_ofList]
    exact canonicalInteger_write number

/-- The least value of a kind of 128 bits comes back, and the integer below it is an error. -/
theorem json_codec_exact_below_minimum :
    ofJson .i128 (minimum .i128).toJson = .ok (minimum .i128) ∧
    (minimum .i128).toJson ≠ (failure .i128).toJson ∧
    (minimum .i128).toJson = (minimum .i128).text ∧
    ofJson .i8 "-128" = .ok (ofWord ⟨-128, by decide⟩) ∧
    ∃ failure, ofJson .i128 (Decimal.text (IntKind.i128.min - 1)) = .error failure := by
  have least : Reached ⟨.i128, minimum .i128⟩ := .start .minimum
  have poison : Reached ⟨.i128, failure .i128⟩ := .start .failure
  rcases json_codec_exact .i128 with ⟨back, distinct, form, denotes, written⟩
  refine ⟨back _ least, ?_, (form _).2 rfl, ?_, ?_⟩
  · intro same
    have valid := congrArg SafeInt.poisoned (distinct _ _ least poison same)
    cases valid
  · rcases json_codec_exact .i8 with ⟨_, _, _, denotesNarrow, writtenNarrow⟩
    have numeral : Decimal.text (-128) = "-128" := by decide
    exact (denotesNarrow "-128" (-128) (numeral ▸ writtenNarrow (-128))).1 (by decide)
  · exact (denotes _ _ (written (IntKind.i128.min - 1))).2 (by decide)

end SafeInt
end Assurance
