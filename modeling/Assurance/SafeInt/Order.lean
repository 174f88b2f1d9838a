import Assurance.SafeInt.Arithmetic

namespace Assurance

/-!
# Comparison, and sets of safe integers

Comparison, equality and the hash key look only at the stored word.  A poisoned
value stores zero, so it compares like a valid zero; whether a value is poisoned
is a separate question.
-/

namespace SafeInt

variable {kind : IntKind}

/-- What is compared: two values, or a value and a word on either side. -/
inductive Comparison (kind : IntKind) where
  | values (left right : SafeInt kind)
  | withWord (left : SafeInt kind) (right : Word kind)
  | wordOnLeft (left : Word kind) (right : SafeInt kind)

namespace Comparison

/-- The words that a comparison compares. -/
def sides : Comparison kind → Word kind × Word kind
  | values left right => (left.stored, right.stored)
  | withWord left right => (left.stored, right)
  | wordOnLeft left right => (left, right.stored)

/-- The three-way result of a comparison. -/
def order (comparison : Comparison kind) : Ordering :=
  compare comparison.sides.1.toInt comparison.sides.2.toInt

def lt (comparison : Comparison kind) : Bool := comparison.order == .lt

/-- Whether the left side is not greater. -/
def le (comparison : Comparison kind) : Bool := comparison.order != .gt

def gt (comparison : Comparison kind) : Bool := comparison.order == .gt

def ge (comparison : Comparison kind) : Bool := comparison.order != .lt

def eq (comparison : Comparison kind) : Bool :=
  comparison.sides.1 == comparison.sides.2

def ne (comparison : Comparison kind) : Bool := !comparison.eq

end Comparison

/-- The key under which a value is hashed. -/
def hashKey (value : SafeInt kind) : Int := value.stored.toInt

end SafeInt

/-- A set of safe integers that are distinct as stored words, in order of insertion. -/
structure ValueSet (kind : IntKind) where
  members : List (SafeInt kind)
  distinct : members.Pairwise fun first second => first.stored ≠ second.stored

namespace ValueSet

variable {kind : IntKind}

def empty (kind : IntKind) : ValueSet kind := ⟨[], List.Pairwise.nil⟩

/-- Whether an equal value is a member. -/
def contains (set : ValueSet kind) (value : SafeInt kind) : Bool :=
  set.members.any fun member => member.stored == value.stored

theorem contains_eq_true_iff {set : ValueSet kind} {value : SafeInt kind} :
    set.contains value = true ↔ ∃ member ∈ set.members, member.stored = value.stored := by
  simp [contains]

/-- The set with a value inserted, and whether it was new. -/
def insert (set : ValueSet kind) (value : SafeInt kind) : Bool × ValueSet kind :=
  if present : set.contains value = true then (false, set)
  else (true, ⟨set.members ++ [value], by
    refine List.pairwise_append.mpr ⟨set.distinct, List.pairwise_singleton _ _, ?_⟩
    intro member isMember last isLast same
    cases List.mem_singleton.mp isLast
    exact present (contains_eq_true_iff.mpr ⟨member, isMember, same⟩)⟩)

/-- Inserts values one after the other, telling for each whether it was new. -/
def insertAll (set : ValueSet kind) : List (SafeInt kind) → List Bool × ValueSet kind
  | [] => ([], set)
  | value :: values =>
      let (fresh, next) := set.insert value
      let (rest, last) := insertAll next values
      (fresh :: rest, last)

def size (set : ValueSet kind) : Nat := set.members.length

end ValueSet

end Assurance
