import Assurance.SafeInt.Json

namespace Assurance
namespace Json

/-!
# Which texts are read as integers

The reader of a word looks at a sign, at digits, and at what follows them; it
takes a different path for narrow and for wide kinds, and a significand that
outgrows 64 bits on the way.  Seen from outside there is one rule: whenever a
word is read, the text began with a JSON integer between blanks, and the word
denotes that integer.  Nothing with a fraction or an exponent is read as a word,
not even if its value is an integer.

Main statements: `beginsWithInteger_of_readWord` for the reader, and
`failure_or_integer_of_ofJson` for a whole text.
-/

/-- The digits of a JSON integer: at least one, and no zero before another digit. -/
structure Numeral (digits : List Char) : Prop where
  decimal : ∀ digit ∈ digits, digit.isDigit = true
  nonempty : digits ≠ []
  noLeadingZero : digits.head? = some '0' → digits = ['0']

def signedDigits (negative : Bool) (digits : List Char) : List Char :=
  if negative then '-' :: digits else digits

/-- The integer that a sign and digits denote. -/
def signedValue (negative : Bool) (digits : List Char) : Int :=
  if negative then -(Nat.ofDigitChars 10 digits 0 : Nat) else (Nat.ofDigitChars 10 digits 0 : Nat)

/-- A text that begins with blanks and a JSON integer of a given value, and goes on with a rest. -/
def BeginsWithInteger (text : List Char) (value : Int) (rest : List Char) : Prop :=
  ∃ blanks negative digits, (∀ char ∈ blanks, isBlank char = true) ∧ Numeral digits ∧
    text = blanks ++ signedDigits negative digits ++ rest ∧ value = signedValue negative digits

/-- A text that is a JSON integer of a given value, with blanks around it. -/
def IsInteger (text : List Char) (value : Int) : Prop :=
  ∃ blanks, (∀ char ∈ blanks, isBlank char = true) ∧ BeginsWithInteger text value blanks

theorem numeral_of_readNumeral {text digits rest : List Char}
    (read : readNumeral text = .ok (digits, rest)) : Numeral digits ∧ text = digits ++ rest := by
  unfold readNumeral at read
  split at read
  · cases read
  · rename_i after
    split at read
    · cases read
    · cases read
      refine ⟨⟨?_, List.cons_ne_nil _ _, fun _ => rfl⟩, rfl⟩
      intro digit member
      cases List.mem_singleton.mp member
      decide
  · rename_i first after notZero
    split at read
    · rename_i digit
      cases read
      refine ⟨⟨?_, ?_, ?_⟩, List.takeWhile_append_dropWhile.symm⟩
      · intro digit member
        exact List.all_eq_true.mp List.all_takeWhile digit member
      · rw [List.takeWhile_cons_of_pos digit]
        exact List.cons_ne_nil _ _
      · rw [List.takeWhile_cons_of_pos digit]
        intro zero
        exact absurd (Option.some.inj zero) notZero
    · cases read

/-- At most all digits are taken into a significand. -/
theorem taken_le_length (start : Nat) (digits : List Char) :
    (extendSignificand start digits).2 ≤ digits.length := by
  induction digits generalizing start with
  | nil => exact Nat.le_refl _
  | cons digit digits inductionHypothesis =>
      simp only [extendSignificand]
      split
      · exact Nat.succ_le_succ (inductionHypothesis _)
      · exact Nat.zero_le _

/-- A significand into which all digits were taken is the number that they denote. -/
theorem significand_of_all_taken {start : Nat} {digits : List Char}
    (all : (extendSignificand start digits).2 = digits.length) :
    (extendSignificand start digits).1 = Nat.ofDigitChars 10 digits start := by
  induction digits generalizing start with
  | nil => rfl
  | cons digit digits inductionHypothesis =>
      simp only [extendSignificand] at all ⊢
      split at all
      · rename_i below
        rw [if_pos below, Nat.ofDigitChars_cons, Nat.mul_comm 10 start]
        exact inductionHypothesis (Nat.succ.inj all)
      · cases all

theorem fractionalNumber_ne_integer {significand : Nat} {exponent value : Int}
    {text rest : List Char} :
    fractionalNumber significand exponent text ≠ .ok (.integer value, rest) := by
  unfold fractionalNumber
  split <;> simp

theorem readExponentDigits_ne_integer {significand : Nat} {exponent value : Int} {positive : Bool}
    {text rest : List Char} :
    readExponentDigits significand exponent positive text ≠ .ok (.integer value, rest) := by
  unfold readExponentDigits
  intro read
  simp only at read
  split at read
  · cases read
  · split at read
    · split at read <;> cases read
    · exact fractionalNumber_ne_integer read

theorem readExponent_ne_integer {significand : Nat} {exponent value : Int}
    {text rest : List Char} :
    readExponent significand exponent text ≠ .ok (.integer value, rest) := by
  unfold readExponent
  split <;> exact readExponentDigits_ne_integer

theorem readFraction_ne_integer {significand : Nat} {exponent value : Int}
    {text rest : List Char} :
    readFraction significand exponent text ≠ .ok (.integer value, rest) := by
  unfold readFraction
  intro read
  simp only at read
  split at read
  · cases read
  · split at read
    · split at read
      · exact readExponent_ne_integer read
      · exact fractionalNumber_ne_integer read
    · exact fractionalNumber_ne_integer read

/-! ## Reading words -/

theorem signedInteger_eq_integer {positive : Bool} {significand : Nat} {value : Int}
    (integral : signedInteger positive significand = .integer value) :
    value = if positive then (significand : Int) else -(significand : Int) := by
  unfold signedInteger at integral
  cases positive with
  | true =>
      cases integral
      rfl
  | false =>
      simp only [Bool.false_eq_true, if_false] at integral ⊢
      split at integral
      · cases integral
        rfl
      · cases integral

/-- Only a number that ends after its digits is an integer, and all its digits were taken. -/
theorem plain_of_readNumberTail {positive : Bool} {significand extra : Nat} {value : Int}
    {text rest : List Char}
    (read : readNumberTail positive significand extra text = .ok (.integer value, rest)) :
    extra = 0 ∧ (value = if positive then (significand : Int) else -(significand : Int)) ∧
      text = rest := by
  have plain : (if extra == 0 then .ok (signedInteger positive significand, text)
      else fractionalNumber significand extra text) = .ok (.integer value, rest) →
      extra = 0 ∧ (value = if positive then (significand : Int) else -(significand : Int)) ∧
        text = rest := by
    intro ended
    split at ended
    · rename_i none
      have pair := Prod.mk.inj (Except.ok.inj ended)
      exact ⟨eq_of_beq none, signedInteger_eq_integer pair.1, pair.2⟩
    · exact absurd ended fractionalNumber_ne_integer
  unfold readNumberTail at read
  simp only at read
  split at read
  · exact absurd read readFraction_ne_integer
  · split at read
    · exact absurd read readExponent_ne_integer
    · exact plain read
  · exact plain read

/-- A number that was read as an integer consists of its digits only. -/
theorem digits_of_readNumber {positive : Bool} {text rest : List Char} {value : Int}
    (read : readNumber positive text = .ok (.integer value, rest)) :
    ∃ digits, readNumeral text = .ok (digits, rest) ∧ value = signedValue (!positive) digits := by
  unfold readNumber at read
  cases numeralRead : readNumeral text with
  | error failure =>
      rw [numeralRead] at read
      cases read
  | ok pair =>
      rcases pair with ⟨digits, after⟩
      rw [numeralRead] at read
      change readNumberTail positive (extendSignificand 0 digits).1
        (digits.length - (extendSignificand 0 digits).2) after = .ok (.integer value, rest) at read
      rcases plain_of_readNumberTail read with ⟨complete, signed, unchanged⟩
      subst unchanged
      refine ⟨digits, rfl, ?_⟩
      have all : (extendSignificand 0 digits).2 = digits.length := by
        have most := taken_le_length 0 digits
        omega
      rw [signed, significand_of_all_taken all]
      cases positive <;> rfl

theorem integer_of_readNumber {positive : Bool} {text rest : List Char} {value : Int}
    (read : readNumber positive text = .ok (.integer value, rest)) :
    ∃ digits, Numeral digits ∧ text = digits ++ rest ∧
      value = signedValue (!positive) digits := by
  rcases digits_of_readNumber read with ⟨digits, numeralRead, same⟩
  rcases numeral_of_readNumeral numeralRead with ⟨numeral, shape⟩
  exact ⟨digits, numeral, shape, same⟩

/-- The blanks that are passed over, and what is left. -/
theorem blanks_append_skipBlanks (text : List Char) :
    ∃ blanks, (∀ char ∈ blanks, isBlank char = true) ∧ text = blanks ++ skipBlanks text :=
  ⟨text.takeWhile isBlank, List.all_eq_true.mp List.all_takeWhile,
    List.takeWhile_append_dropWhile.symm⟩

/-- What follows the blanks of a text decides whether the text begins with an integer. -/
theorem beginsWithInteger_of_skipBlanks (negative : Bool) {text after rest : List Char}
    {value : Int}
    (shape : skipBlanks text = signedDigits negative after)
    (read : ∃ digits, Numeral digits ∧ after = digits ++ rest ∧
      value = signedValue negative digits) :
    BeginsWithInteger text value rest := by
  rcases blanks_append_skipBlanks text with ⟨blanks, blank, front⟩
  rcases read with ⟨digits, numeral, split, same⟩
  refine ⟨blanks, negative, digits, blank, numeral, ?_, same⟩
  rw [front, shape, split]
  cases negative <;> simp [signedDigits]

theorem integer_of_wordOfNumber {kind : IntKind} {number : Except Failure (Number × List Char)}
    {word : Word kind} {rest : List Char} (accepted : wordOfNumber kind number = .ok (word, rest)) :
    number = .ok (.integer word.toInt, rest) := by
  unfold wordOfNumber at accepted
  split at accepted
  · cases accepted
  · cases accepted
  · rename_i value left
    split at accepted
    · rename_i found inside
      cases accepted
      rw [Word.ofInt?_eq_some_iff.mp inside]
    · cases accepted

theorem beginsWithInteger_of_readNarrow {kind : IntKind} {text rest : List Char}
    {word : Word kind} (read : readNarrow kind text = .ok (word, rest)) :
    BeginsWithInteger text word.toInt rest := by
  unfold readNarrow at read
  split at read
  · cases read
  · rename_i after shape
    exact beginsWithInteger_of_skipBlanks true shape
      (integer_of_readNumber (integer_of_wordOfNumber read))
  · rename_i first after notMinus shape
    split at read
    · exact beginsWithInteger_of_skipBlanks false shape
        (integer_of_readNumber (integer_of_wordOfNumber read))
    · cases read

theorem integer_of_readSized {kind : IntKind} {negative : Bool} {text rest : List Char}
    {word : Word kind} (read : readSized kind negative text = .ok (word, rest)) :
    ∃ digits, Numeral digits ∧ text = digits ++ rest ∧
      word.toInt = signedValue negative digits := by
  unfold readSized at read
  split at read
  · cases read
  · rename_i digits left numeralRead
    rcases numeral_of_readNumeral numeralRead with ⟨numeral, shape⟩
    simp only at read
    split at read
    · rename_i found inside
      cases read
      exact ⟨digits, numeral, shape, Word.ofInt?_eq_some_iff.mp inside⟩
    · cases read

theorem beginsWithInteger_of_readWide {kind : IntKind} {text rest : List Char}
    {word : Word kind} (read : readWide kind text = .ok (word, rest)) :
    BeginsWithInteger text word.toInt rest := by
  unfold readWide at read
  split at read
  · cases read
  · rename_i after shape
    split at read
    · exact beginsWithInteger_of_skipBlanks true shape (integer_of_readSized read)
    · cases read
  · exact beginsWithInteger_of_skipBlanks false rfl (integer_of_readSized read)

/-- Whatever the kind, a word is read from a JSON integer only. -/
theorem beginsWithInteger_of_readWord {kind : IntKind} {text rest : List Char}
    {word : Word kind} (read : readWord kind text = .ok (word, rest)) :
    BeginsWithInteger text word.toInt rest := by
  unfold readWord at read
  split at read
  · exact beginsWithInteger_of_readWide read
  · exact beginsWithInteger_of_readNarrow read

/-- What can be read as a safe integer: `null`, which poisons, or an integer. -/
theorem failure_or_integer_of_readSafeInt {kind : IntKind} {text rest : List Char}
    {value : SafeInt kind} (read : readSafeInt kind text = .ok (value, rest)) :
    value = SafeInt.failure kind ∨
      ∃ word, value = SafeInt.ofWord word ∧ BeginsWithInteger text word.toInt rest := by
  rcases blanks_append_skipBlanks text with ⟨blanks, blank, front⟩
  unfold readSafeInt at read
  split at read
  · rename_i after shape
    cases found : expect ['u', 'l', 'l'] after with
    | error failure =>
        rw [found] at read
        cases read
    | ok left =>
        rw [found] at read
        cases read
        exact Or.inl rfl
  · cases found : readWord kind (skipBlanks text) with
    | error failure =>
        rw [found] at read
        cases read
    | ok pair =>
        rcases pair with ⟨word, left⟩
        rw [found] at read
        cases read
        rcases beginsWithInteger_of_readWord found with
          ⟨inner, negative, digits, innerBlank, numeral, shape, same⟩
        refine Or.inr ⟨word, rfl, blanks ++ inner, negative, digits, ?_, numeral, ?_, same⟩
        · exact List.forall_mem_append.mpr ⟨blank, innerBlank⟩
        · rw [front, shape]
          simp only [List.append_assoc]

theorem blanks_of_finish {text : List Char} (finished : finish text = .ok ()) :
    ∀ char ∈ text, isBlank char = true := by
  rcases blanks_append_skipBlanks text with ⟨blanks, blank, front⟩
  unfold finish at finished
  split at finished
  · rename_i empty
    rw [List.isEmpty_iff.mp empty, List.append_nil] at front
    rw [front]
    exact blank
  · cases finished

end Json

namespace SafeInt

open Json

/-- A text denotes a value if the value is read from it with only blanks left. -/
theorem ofJson_eq_ok_iff_reads {kind : IntKind} {text : String} {value : SafeInt kind} :
    ofJson kind text = .ok value ↔
      ∃ rest, readSafeInt kind text.toList = .ok (value, rest) ∧ finish rest = .ok () := by
  unfold ofJson
  constructor
  · intro decoded
    cases found : readSafeInt kind text.toList with
    | error failure =>
        rw [found] at decoded
        cases decoded
    | ok pair =>
        rcases pair with ⟨readValue, rest⟩
        rw [found] at decoded
        change (finish rest).bind (fun _ => .ok readValue) = .ok value at decoded
        cases finished : finish rest with
        | error failure =>
            rw [finished] at decoded
            cases decoded
        | ok nothing =>
            rw [finished] at decoded
            cases decoded
            exact ⟨rest, rfl, finished⟩
  · rintro ⟨rest, found, finished⟩
    rw [found]
    change (finish rest).bind (fun _ => .ok value) = .ok value
    rw [finished]
    rfl

/-- A text that denotes a value is `null` or a JSON integer, and the value is poisoned or that
integer. -/
theorem failure_or_integer_of_ofJson {kind : IntKind} {text : String} {value : SafeInt kind}
    (decoded : ofJson kind text = .ok value) :
    value = failure kind ∨ ∃ word, value = ofWord word ∧ IsInteger text.toList word.toInt := by
  rcases ofJson_eq_ok_iff_reads.mp decoded with ⟨rest, found, finished⟩
  rcases failure_or_integer_of_readSafeInt found with failed | ⟨word, valid, integer⟩
  · exact Or.inl failed
  · exact Or.inr ⟨word, valid, rest, blanks_of_finish finished, integer⟩

end SafeInt
end Assurance
