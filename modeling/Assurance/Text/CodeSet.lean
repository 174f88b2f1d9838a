namespace Assurance

/-!
# Sets of code points

A property of characters is given by the boundaries of its ranges in ascending
order: a range begins at every boundary in an even place and ends before the
next one.  A code point has the property if the number of boundaries up to it is
odd.
-/

/-- The boundaries of the ranges of a set of code points. -/
structure CodeSet where
  boundaries : List Nat
deriving DecidableEq, Repr

namespace CodeSet

def containsCode (set : CodeSet) (code : Nat) : Bool :=
  (set.boundaries.takeWhile (· ≤ code)).length % 2 == 1

def contains (set : CodeSet) (char : Char) : Bool :=
  set.containsCode char.toNat

theorem containsCode_nil (code : Nat) : containsCode ⟨[]⟩ code = false := rfl

/-- The ranges of a set can be looked at one by one. -/
theorem containsCode_cons_cons (first past : Nat) (boundaries : List Nat) (code : Nat) :
    containsCode ⟨first :: past :: boundaries⟩ code =
      if code < first then false
      else if code < past then true
      else containsCode ⟨boundaries⟩ code := by
  unfold containsCode
  by_cases before : code < first
  · simp [Nat.not_le.mpr before, before]
  · by_cases inside : code < past
    · simp [Nat.not_lt.mp before, Nat.not_le.mpr inside, before, inside]
    · simp [Nat.not_lt.mp before, Nat.not_lt.mp inside, before, inside, Nat.add_assoc]

end CodeSet

end Assurance
