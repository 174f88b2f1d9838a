namespace Assurance

/-!
# Integer kinds

The twelve fixed-width integer kinds: six unsigned and six two's-complement.
A kind is a width in bits and a signedness; its name and its least and greatest
values are read off those.  The word-sized kinds are 64 bits wide.

The main facts are that zero and one lie in the range of every kind.
-/

/-- The twelve fixed-width integer kinds. -/
inductive IntKind where
  | u8 | u16 | u32 | u64 | u128 | usize
  | i8 | i16 | i32 | i64 | i128 | isize
deriving DecidableEq, Repr

namespace IntKind

/-- Every kind, the unsigned ones first. -/
def all : List IntKind :=
  [u8, u16, u32, u64, u128, usize, i8, i16, i32, i64, i128, isize]

theorem mem_all (kind : IntKind) : kind ∈ all := by
  cases kind <;> decide

def name : IntKind → String
  | u8 => "u8" | u16 => "u16" | u32 => "u32" | u64 => "u64" | u128 => "u128" | usize => "usize"
  | i8 => "i8" | i16 => "i16" | i32 => "i32" | i64 => "i64" | i128 => "i128" | isize => "isize"

/-- The kind of a given name, if there is one. -/
def ofName? (text : String) : Option IntKind :=
  all.find? fun kind => kind.name == text

/-- The number of binary digits of a kind. -/
def bits : IntKind → Nat
  | u8 | i8 => 8
  | u16 | i16 => 16
  | u32 | i32 => 32
  | u64 | i64 | usize | isize => 64
  | u128 | i128 => 128

/-- Whether values of a kind can be negative. -/
def signed : IntKind → Bool
  | u8 | u16 | u32 | u64 | u128 | usize => false
  | i8 | i16 | i32 | i64 | i128 | isize => true

theorem bits_pos (kind : IntKind) : 0 < kind.bits := by
  cases kind <;> decide

def min (kind : IntKind) : Int :=
  if kind.signed then -(Nat.pow 2 (kind.bits - 1) : Nat) else 0

def max (kind : IntKind) : Int :=
  (Nat.pow 2 (if kind.signed then kind.bits - 1 else kind.bits) : Nat) - 1

/-- The number of values of a kind. -/
def modulus (kind : IntKind) : Int :=
  (Nat.pow 2 kind.bits : Nat)

/-- An integer that a kind can represent. -/
def InRange (kind : IntKind) (value : Int) : Prop :=
  kind.min ≤ value ∧ value ≤ kind.max

instance (kind : IntKind) (value : Int) : Decidable (kind.InRange value) :=
  inferInstanceAs (Decidable (kind.min ≤ value ∧ value ≤ kind.max))

theorem min_le_zero (kind : IntKind) : kind.min ≤ 0 := by
  cases kind <;> decide

theorem one_le_max (kind : IntKind) : 1 ≤ kind.max := by
  cases kind <;> decide

theorem inRange_zero (kind : IntKind) : kind.InRange 0 :=
  ⟨kind.min_le_zero, Int.le_trans (by decide) kind.one_le_max⟩

theorem inRange_one (kind : IntKind) : kind.InRange 1 :=
  ⟨Int.le_trans kind.min_le_zero (by decide), kind.one_le_max⟩

theorem inRange_min (kind : IntKind) : kind.InRange kind.min :=
  ⟨Int.le_refl _, Int.le_trans kind.min_le_zero kind.inRange_zero.2⟩

theorem inRange_max (kind : IntKind) : kind.InRange kind.max :=
  ⟨Int.le_trans kind.inRange_zero.1 kind.inRange_zero.2, Int.le_refl _⟩

/-- The range of a kind holds exactly as many values as its modulus says. -/
theorem max_eq_min_add (kind : IntKind) : kind.max = kind.min + kind.modulus - 1 := by
  cases kind <;> decide

theorem modulus_pos (kind : IntKind) : 0 < kind.modulus := by
  cases kind <;> decide

theorem min_eq_zero_of_unsigned {kind : IntKind} (unsigned : kind.signed = false) :
    kind.min = 0 := by
  simp [min, unsigned]

end IntKind

end Assurance
