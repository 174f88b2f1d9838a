import Assurance.Integer.Word

namespace Assurance

namespace Decimal

/-!
# Decimal numerals

An integer is written as a minus sign, if it is negative, and its decimal digits
without leading zeros.  Reading is more liberal: a plus sign is accepted, and so
are leading zeros; a minus sign is accepted only where negative values exist.

Main statement: `read?_write`, reading what was written.
-/

def digits (value : Nat) : List Char :=
  Nat.toDigits 10 value

def write (value : Int) : List Char :=
  if value < 0 then '-' :: digits value.natAbs else digits value.natAbs

/-- The numeral of an integer as text. -/
def text (value : Int) : String :=
  String.ofList (write value)

/-- The number that a nonempty string of decimal digits denotes. -/
def readDigits? (numeral : List Char) : Option Nat :=
  if !numeral.isEmpty && numeral.all Char.isDigit then some (Nat.ofDigitChars 10 numeral 0)
  else none

/-- The integer that a numeral denotes; a minus sign is read only if `signed` says so. -/
def read? (signed : Bool) : List Char → Option Int
  | '+' :: numeral => (readDigits? numeral).map Int.ofNat
  | '-' :: numeral =>
      if signed then (readDigits? numeral).map fun value => -Int.ofNat value else none
  | numeral => (readDigits? numeral).map Int.ofNat

theorem isDigit_of_mem_digits {char : Char} {value : Nat} (among : char ∈ digits value) :
    char.isDigit = true :=
  Nat.isDigit_of_mem_toDigits (by decide) (by decide) among

theorem not_mem_digits {char : Char} (notDigit : char.isDigit = false) (value : Nat) :
    char ∉ digits value := by
  intro among
  rw [isDigit_of_mem_digits among] at notDigit
  cases notDigit

theorem readDigits?_digits (value : Nat) : readDigits? (digits value) = some value := by
  have nonempty : (digits value).isEmpty = false := by
    cases shape : digits value with
    | nil => exact absurd shape Nat.toDigits_ne_nil
    | cons head tail => rfl
  have decimal : (digits value).all Char.isDigit = true := by
    rw [List.all_eq_true]
    exact fun digit => isDigit_of_mem_digits
  simp only [readDigits?, nonempty, decimal, Bool.not_false, Bool.and_self, if_true]
  exact congrArg some (Nat.ofDigitChars_toDigits (by decide) (by decide))

/-- A string of digits has no sign, so it is read as it stands. -/
theorem read?_digits (signed : Bool) (value : Nat) :
    read? signed (digits value) = some (Int.ofNat value) := by
  unfold read?
  split
  · rename_i numeral shape
    exact absurd (shape ▸ List.mem_cons_self) (not_mem_digits rfl value)
  · rename_i numeral shape
    exact absurd (shape ▸ List.mem_cons_self) (not_mem_digits rfl value)
  · rw [readDigits?_digits]
    rfl

/-- Reading what was written gives the integer back, for every integer that has a sign to write. -/
theorem read?_write {signed : Bool} {value : Int} (admissible : 0 ≤ value ∨ signed = true) :
    read? signed (write value) = some value := by
  unfold write
  split
  · rename_i negative
    have isSigned : signed = true := by
      cases admissible with
      | inl nonnegative => omega
      | inr isSigned => exact isSigned
    simp only [read?, isSigned, if_true, readDigits?_digits, Option.map_some, Option.some.injEq]
    change -((value.natAbs : Nat) : Int) = value
    omega
  · rw [read?_digits]
    change some ((value.natAbs : Nat) : Int) = some value
    congr 1
    omega

end Decimal

namespace Word

/-- The word that a numeral denotes: the numeral is read, and its value is range-checked. -/
def read? (kind : IntKind) (numeral : String) : Option (Word kind) :=
  (Decimal.read? kind.signed numeral.toList).bind (ofInt? kind)

/-- The numeral of a word. -/
def text {kind : IntKind} (word : Word kind) : String :=
  Decimal.text word.toInt

end Word

end Assurance
