import Assurance.Integer.Word

namespace Assurance

/-!
# Safe integers

A safe integer is a word together with a poison mark.  The mark says that the
value cannot be trusted; the stored word of a poisoned value is zero, so nothing
stale can be read from it.  That rule is the predicate `SafeInt.Canonical`, and
every constructor here satisfies it.
-/

/-- A word that may be poisoned. -/
structure SafeInt (kind : IntKind) where
  /-- The word that is read when the poison mark is not looked at. -/
  stored : Word kind
  /-- Whether the value is unusable. -/
  poisoned : Bool
deriving DecidableEq

namespace SafeInt

variable {kind : IntKind}

/-- A poisoned value stores zero. -/
def Canonical (value : SafeInt kind) : Prop :=
  value.poisoned = true → value.stored = Word.zero kind

/-- A valid value. -/
def ofWord (word : Word kind) : SafeInt kind := ⟨word, false⟩

/-- The poisoned value of a kind. -/
def failure (kind : IntKind) : SafeInt kind := ⟨Word.zero kind, true⟩

/-- The outcome of a checked operation: nothing poisons. -/
def ofOption : Option (Word kind) → SafeInt kind
  | some word => ofWord word
  | none => failure kind

/-- A value whose poison mark is given; a word under the mark is discarded. -/
def withPoison (word : Word kind) (invalid : Bool) : SafeInt kind :=
  if invalid then failure kind else ofWord word

def zero (kind : IntKind) : SafeInt kind := ofWord (Word.zero kind)

def one (kind : IntKind) : SafeInt kind := ofWord (Word.one kind)

def minimum (kind : IntKind) : SafeInt kind := ofWord (Word.minimum kind)

def maximum (kind : IntKind) : SafeInt kind := ofWord (Word.maximum kind)

theorem canonical_ofWord (word : Word kind) : Canonical (ofWord word) :=
  fun poisoned => nomatch poisoned

theorem canonical_failure : Canonical (failure kind) :=
  fun _ => rfl

theorem canonical_ofOption (result : Option (Word kind)) : Canonical (ofOption result) := by
  cases result with
  | none => exact canonical_failure
  | some word => exact canonical_ofWord word

theorem canonical_withPoison (word : Word kind) (invalid : Bool) :
    Canonical (withPoison word invalid) := by
  cases invalid with
  | false => exact canonical_ofWord word
  | true => exact canonical_failure

/-- The word, if the value is valid. -/
def checked (value : SafeInt kind) : Option (Word kind) :=
  if value.poisoned then none else some value.stored

/-- A note that a poisoned value was read as if it were valid. -/
structure InvalidRead where
  /-- The kind of the value that was read. -/
  kind : IntKind
deriving DecidableEq

/-- What a note about a poisoned value says. -/
def InvalidRead.message : String := "read of invalid safe integral"

/-- The word, or zero with a note if the value is poisoned. -/
def get (value : SafeInt kind) : Word kind × Option InvalidRead :=
  if value.poisoned then (Word.zero kind, some ⟨kind⟩) else (value.stored, none)

/-- The word, or a given one if the value is poisoned. -/
def getOr (value : SafeInt kind) (otherwise : Word kind) : Word kind :=
  value.checked.getD otherwise

@[simp] theorem checked_ofWord (word : Word kind) : (ofWord word).checked = some word := rfl

@[simp] theorem checked_failure : (failure kind).checked = none := rfl

@[simp] theorem checked_ofOption (result : Option (Word kind)) :
    (ofOption result).checked = result := by
  cases result <;> rfl

theorem checked_eq_none_iff {value : SafeInt kind} :
    value.checked = none ↔ value.poisoned = true := by
  rcases value with ⟨stored, poisoned⟩
  cases poisoned <;> simp [checked]

/-- A canonical value is determined by what it reads as. -/
theorem ofOption_checked {value : SafeInt kind} (canonical : value.Canonical) :
    ofOption value.checked = value := by
  rcases value with ⟨stored, poisoned⟩
  cases poisoned with
  | false => rfl
  | true => exact congrArg (SafeInt.mk · true) (canonical rfl).symm

/-- Whether the value can be trusted. -/
def isValid (value : SafeInt kind) : Bool := !value.poisoned

theorem checked_eq_some_iff {value : SafeInt kind} {word : Word kind} :
    value.checked = some word ↔ value.isValid = true ∧ value.stored = word := by
  rcases value with ⟨stored, poisoned⟩
  cases poisoned <;> simp [isValid, checked]

theorem isValid_ofOption_iff {result : Option (Word kind)} :
    (ofOption result).isValid = true ↔ ∃ word, result = some word := by
  cases result <;> simp [ofOption, isValid, ofWord, failure]

/-- A valid value is the one made of its word. -/
theorem eq_ofWord_of_isValid {value : SafeInt kind} (valid : value.isValid = true) :
    value = ofWord value.stored := by
  rcases value with ⟨stored, poisoned⟩
  cases poisoned with
  | false => rfl
  | true => cases valid

/-- There is one canonical value that is not valid. -/
theorem eq_failure_of_not_isValid {value : SafeInt kind} (canonical : value.Canonical)
    (invalid : ¬ value.isValid = true) : value = failure kind := by
  rcases value with ⟨stored, poisoned⟩
  cases poisoned with
  | false => exact absurd rfl invalid
  | true => exact congrArg (SafeInt.mk · true) (canonical rfl)

/-- Canonical values are equal if they are valid together and then store the same integer. -/
theorem eq_of_agrees {first second : SafeInt kind} (firstCanonical : first.Canonical)
    (secondCanonical : second.Canonical)
    (together : first.isValid = true ↔ second.isValid = true)
    (same : first.isValid = true → first.stored.toInt = second.stored.toInt) :
    first = second := by
  by_cases valid : first.isValid = true
  · rw [eq_ofWord_of_isValid valid, eq_ofWord_of_isValid (together.mp valid),
      Word.ext (same valid)]
  · rw [eq_failure_of_not_isValid firstCanonical valid,
      eq_failure_of_not_isValid secondCanonical (mt together.mpr valid)]

/-- Valid and greater than zero. -/
def isPositive (value : SafeInt kind) : Bool :=
  value.isValid && decide (0 < value.stored.toInt)

/-- Valid and less than zero. -/
def isNegative (value : SafeInt kind) : Bool :=
  value.isValid && decide (value.stored.toInt < 0)

/-- Valid and zero. -/
def isZero (value : SafeInt kind) : Bool :=
  value.isValid && decide (value.stored.toInt = 0)

/-- Poisoned or zero. -/
def isZeroOrInvalid (value : SafeInt kind) : Bool :=
  value.poisoned || decide (value.stored.toInt = 0)

/-- Valid and the greatest value of its kind. -/
def isMaximum (value : SafeInt kind) : Bool :=
  value.isValid && decide (value.stored.toInt = kind.max)

/-- Valid and the least value of its kind. -/
def isMinimum (value : SafeInt kind) : Bool :=
  value.isValid && decide (value.stored.toInt = kind.min)

end SafeInt

end Assurance
