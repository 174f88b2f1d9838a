import Assurance.Integer.Word

namespace Assurance

/-!
# Where checked division is defined

Sums, differences, products and negations pass the one range check, so
`ofInt?_eq_some_iff` already says what they give.  Division needs more: a
quotient of two words leaves the range at exactly one pair of operands, the
least value of a signed kind and minus one, and the remainder is undefined at
that pair although its integer value is zero.
-/

namespace IntKind

/-- The least value is zero, or one beyond the negated greatest value. -/
theorem min_eq_zero_or (kind : IntKind) : kind.min = 0 ∨ kind.min = -kind.max - 1 := by
  cases kind <;> decide

/-- The only quotient of two integers in range that is not in range itself. -/
theorem inRange_tdiv_iff {kind : IntKind} {dividend divisor : Int}
    (dividendInside : kind.InRange dividend) (divisorInside : kind.InRange divisor)
    (nonzero : divisor ≠ 0) :
    kind.InRange (dividend.tdiv divisor) ↔ ¬ (dividend = kind.min ∧ divisor = -1) := by
  rcases dividendInside with ⟨dividendLow, dividendHigh⟩
  rcases divisorInside with ⟨divisorLow, divisorHigh⟩
  have positive := kind.one_le_max
  have size := Int.natAbs_tdiv_le_natAbs dividend divisor
  unfold InRange
  rcases kind.min_eq_zero_or with unsigned | signed
  · have sign : 0 ≤ dividend.tdiv divisor := Int.tdiv_nonneg (by omega) (by omega)
    omega
  · by_cases one : divisor = 1
    · rw [one, Int.tdiv_one]
      omega
    · by_cases minusOne : divisor = -1
      · rw [minusOne, Int.tdiv_neg, Int.tdiv_one]
        omega
      · -- A divisor of at least two halves the dividend.
        have half : (dividend.tdiv divisor).natAbs ≤ dividend.natAbs / 2 := by
          rw [Int.natAbs_tdiv]
          exact Nat.div_le_div_left (by omega) (by decide)
        omega

end IntKind

namespace Word

variable {kind : IntKind}

/-- The pair of operands at which a quotient leaves the range. -/
def DivisionOverflows (left right : Word kind) : Prop :=
  left.toInt = kind.min ∧ right.toInt = -1

theorem div?_eq_some_iff {left right word : Word kind} :
    div? left right = some word ↔
      right.toInt ≠ 0 ∧ word.toInt = left.toInt.tdiv right.toInt := by
  unfold div?
  by_cases zero : right.toInt = 0
  · simp [zero]
  · rw [if_neg zero, ofInt?_eq_some_iff]
    exact ⟨fun same => ⟨zero, same⟩, fun defined => defined.2⟩

/-- A quotient is defined except for a zero divisor and the overflowing pair. -/
theorem exists_div?_iff {left right : Word kind} :
    (∃ word, div? left right = some word) ↔
      right.toInt ≠ 0 ∧ ¬ DivisionOverflows left right := by
  constructor
  · rintro ⟨word, defined⟩
    rcases div?_eq_some_iff.mp defined with ⟨nonzero, same⟩
    refine ⟨nonzero, (IntKind.inRange_tdiv_iff left.inRange right.inRange nonzero).mp ?_⟩
    exact same ▸ word.inRange
  · rintro ⟨nonzero, regular⟩
    have inside := (IntKind.inRange_tdiv_iff left.inRange right.inRange nonzero).mpr regular
    exact ⟨⟨_, inside⟩, div?_eq_some_iff.mpr ⟨nonzero, rfl⟩⟩

theorem rem?_eq_some_iff {left right word : Word kind} :
    rem? left right = some word ↔
      (right.toInt ≠ 0 ∧ ¬ DivisionOverflows left right) ∧
        word.toInt = left.toInt.tmod right.toInt := by
  unfold rem?
  rw [Option.bind_eq_some_iff, ← exists_div?_iff]
  constructor
  · rintro ⟨quotient, defined, remainder⟩
    exact ⟨⟨quotient, defined⟩, ofInt?_eq_some_iff.mp remainder⟩
  · rintro ⟨⟨quotient, defined⟩, same⟩
    exact ⟨quotient, defined, ofInt?_eq_some_iff.mpr same⟩

end Word

end Assurance
