import Assurance.Integer.Kind

namespace Assurance

/-!
# Words

A word is an integer that lies in the range of its kind.  There is one range
check, `Word.ofInt?`; every checked operation computes in unbounded integers
and passes its result through it, so an operation is defined exactly when the
exact result is representable.

Main statements: `ofInt?_eq_some_iff` and `ofInt?_eq_none_iff` for the range
check, and `toInt_wrap_emod`, which says that `wrap` keeps the residue.
-/

/-- An integer in the range of a kind. -/
structure Word (kind : IntKind) where
  /-- The integer that the word denotes. -/
  toInt : Int
  inRange : kind.InRange toInt
deriving DecidableEq

namespace Word

variable {kind : IntKind}

@[ext] theorem ext {left right : Word kind} (same : left.toInt = right.toInt) : left = right := by
  cases left
  cases right
  cases same
  rfl

/-- The word that denotes an integer, if the integer is in range. -/
def ofInt? (kind : IntKind) (value : Int) : Option (Word kind) :=
  if inRange : kind.InRange value then some ⟨value, inRange⟩ else none

theorem ofInt?_eq_some_iff {value : Int} {word : Word kind} :
    ofInt? kind value = some word ↔ word.toInt = value := by
  unfold ofInt?
  split
  · constructor
    · intro same
      cases same
      rfl
    · intro same
      exact congrArg some (ext same.symm)
  · rename_i outside
    constructor
    · intro same
      cases same
    · intro same
      exact absurd (same ▸ word.inRange) outside

theorem ofInt?_eq_none_iff {value : Int} :
    ofInt? kind value = none ↔ ¬ kind.InRange value := by
  unfold ofInt?
  split <;> simp_all

theorem ofInt?_of_inRange {value : Int} (inside : kind.InRange value) :
    ofInt? kind value = some ⟨value, inside⟩ :=
  ofInt?_eq_some_iff.mpr rfl

theorem exists_ofInt?_iff {value : Int} :
    (∃ word, ofInt? kind value = some word) ↔ kind.InRange value := by
  constructor
  · rintro ⟨word, defined⟩
    exact ofInt?_eq_some_iff.mp defined ▸ word.inRange
  · intro inside
    exact ⟨_, ofInt?_of_inRange inside⟩

@[simp] theorem ofInt?_toInt (word : Word kind) : ofInt? kind word.toInt = some word :=
  ofInt?_eq_some_iff.mpr rfl

def zero (kind : IntKind) : Word kind := ⟨0, kind.inRange_zero⟩

def one (kind : IntKind) : Word kind := ⟨1, kind.inRange_one⟩

def minimum (kind : IntKind) : Word kind := ⟨kind.min, kind.inRange_min⟩

def maximum (kind : IntKind) : Word kind := ⟨kind.max, kind.inRange_max⟩

/-- The sum, if it is in range. -/
def add? (left right : Word kind) : Option (Word kind) :=
  ofInt? kind (left.toInt + right.toInt)

/-- The difference, if it is in range. -/
def sub? (left right : Word kind) : Option (Word kind) :=
  ofInt? kind (left.toInt - right.toInt)

/-- The product, if it is in range. -/
def mul? (left right : Word kind) : Option (Word kind) :=
  ofInt? kind (left.toInt * right.toInt)

/-- The quotient truncated toward zero, if the divisor is not zero and the quotient is in range. -/
def div? (left right : Word kind) : Option (Word kind) :=
  if right.toInt = 0 then none else ofInt? kind (left.toInt.tdiv right.toInt)

/-- The remainder of truncating division, defined exactly where the quotient is. -/
def rem? (left right : Word kind) : Option (Word kind) :=
  (div? left right).bind fun _ => ofInt? kind (left.toInt.tmod right.toInt)

/-- The negation, if it is in range. -/
def neg? (word : Word kind) : Option (Word kind) :=
  ofInt? kind (-word.toInt)

/-- The same integer as a word of another kind, if it is in range there. -/
def convert? (target : IntKind) (word : Word kind) : Option (Word target) :=
  ofInt? target word.toInt

/-- The word of a kind with the same residue modulo the number of its values. -/
def wrap (kind : IntKind) (value : Int) : Word kind :=
  ⟨kind.min + (value - kind.min) % kind.modulus, by
    have positive := kind.modulus_pos
    have lower := Int.emod_nonneg (value - kind.min) (Int.ne_of_gt positive)
    have upper := Int.emod_lt_of_pos (value - kind.min) positive
    have whole := kind.max_eq_min_add
    exact ⟨by omega, by omega⟩⟩

theorem toInt_wrap_emod (kind : IntKind) (value : Int) :
    (wrap kind value).toInt % kind.modulus = value % kind.modulus := by
  change (kind.min + (value - kind.min) % kind.modulus) % kind.modulus = value % kind.modulus
  rw [Int.add_emod_emod]
  congr 1
  omega

/-- A value already in range is its own residue. -/
theorem toInt_wrap_of_inRange {value : Int} (inside : kind.InRange value) :
    (wrap kind value).toInt = value := by
  change kind.min + (value - kind.min) % kind.modulus = value
  have whole := kind.max_eq_min_add
  have low := inside.1
  have high := inside.2
  rw [Int.emod_eq_of_lt (by omega) (by omega)]
  omega

/-- A shift amount, if the word is one: not negative and below 2³². -/
def shiftAmount? (word : Word kind) : Option Nat :=
  if 0 ≤ word.toInt ∧ word.toInt < UInt32.size then some word.toInt.toNat else none

/-- The word shifted to higher digits, the digits beyond the width dropped. -/
def shiftLeft? (word : Word kind) (amount : Nat) : Option (Word kind) :=
  if amount < kind.bits then some (wrap kind (word.toInt * (Nat.pow 2 amount : Nat))) else none

/-- The word shifted to lower digits: the floor of its division by a power of two. -/
def shiftRight? (word : Word kind) (amount : Nat) : Option (Word kind) :=
  if amount < kind.bits then some (wrap kind (word.toInt / (Nat.pow 2 amount : Nat))) else none

/-- The two's-complement digits of a word. -/
def toBits (word : Word kind) : BitVec kind.bits :=
  BitVec.ofInt kind.bits word.toInt

/-- The word whose two's-complement digits are given. -/
def ofBits (digits : BitVec kind.bits) : Word kind :=
  wrap kind digits.toNat

def and (left right : Word kind) : Word kind := ofBits (left.toBits &&& right.toBits)

def or (left right : Word kind) : Word kind := ofBits (left.toBits ||| right.toBits)

def xor (left right : Word kind) : Word kind := ofBits (left.toBits ^^^ right.toBits)

def complement (word : Word kind) : Word kind := ofBits (~~~word.toBits)

end Word

end Assurance
