import Assurance.SafeInt.Arithmetic

namespace Assurance

/-!
# Sums and products

A sum starts at valid zero and a product at valid one; the values are combined
from left to right, so every prefix has to stay in range.  Values that are only
referred to are copied first.
-/

namespace SafeInt

variable {kind : IntKind}

/-- The sum of values, from left to right. -/
def sum (values : List (SafeInt kind)) : SafeInt kind :=
  values.foldl (· + ·) (zero kind)

/-- The product of values, from left to right. -/
def product (values : List (SafeInt kind)) : SafeInt kind :=
  values.foldl (· * ·) (one kind)

/-- A reference to a value that stays where it is stored. -/
structure Shared (kind : IntKind) where
  /-- The value that the reference leads to. -/
  target : SafeInt kind

/-- The values behind references, copied in the order of the references. -/
def copied (references : List (Shared kind)) : List (SafeInt kind) :=
  references.map Shared.target

/-- The sum of the values behind references. -/
def sumShared (references : List (Shared kind)) : SafeInt kind :=
  sum (copied references)

/-- The product of the values behind references. -/
def productShared (references : List (Shared kind)) : SafeInt kind :=
  product (copied references)

end SafeInt

/-- The sum of two 32-bit integers, which always fits in 64 bits. -/
def wideSum (left right : Word .i32) : Word .i64 :=
  ⟨left.toInt + right.toInt, by
    have leftLow := left.inRange.1
    have leftHigh := left.inRange.2
    have rightLow := right.inRange.1
    have rightHigh := right.inRange.2
    have min32 : IntKind.i32.min = -2147483648 := by decide
    have max32 : IntKind.i32.max = 2147483647 := by decide
    have min64 : IntKind.i64.min = -9223372036854775808 := by decide
    have max64 : IntKind.i64.max = 9223372036854775807 := by decide
    constructor <;> omega⟩

/-- Whether a 64-bit integer lies between the limits of 32-bit ones. -/
def fits32 (value : Word .i64) : Bool :=
  decide (-2147483648 ≤ value.toInt ∧ value.toInt ≤ 2147483647)

end Assurance
