import Assurance.SafeInt.Step
import Mathlib.Data.List.Induction

namespace Assurance

/-!
# Chains of conversions

A value that is converted through a chain of kinds keeps its integer or is
poisoned.  It survives exactly if the integer lies in the range of every kind on
the way, so a chain asks nothing but which kinds occur in it.  Their order and
their number do not matter, a chain that is survived could have been cut short to
its last conversion, and the way back is always open.

Main statement: `Accumulator.conversion_chain`.
-/

namespace SafeInt

variable {kind target : IntKind} {value : SafeInt kind}

theorem isValid_convert_iff :
    (value.convert target).isValid = true ↔
      value.isValid = true ∧ target.InRange value.stored.toInt := by
  rcases value with ⟨stored, poisoned⟩
  cases poisoned with
  | true => simp [convert, isValid, failure]
  | false =>
      have own : (⟨stored, false⟩ : SafeInt kind).isValid = true := rfl
      rw [and_iff_right own]
      exact isValid_ofOption_iff.trans Word.exists_ofInt?_iff

theorem stored_convert (valid : (value.convert target).isValid = true) :
    (value.convert target).stored.toInt = value.stored.toInt := by
  rcases isValid_convert_iff.mp valid with ⟨valueValid, inside⟩
  rw [eq_ofWord_of_isValid valueValid]
  change (ofOption (Word.ofInt? target value.stored.toInt)).stored.toInt = value.stored.toInt
  rw [Word.ofInt?_of_inRange inside]
  rfl

theorem convert_self (canonical : value.Canonical) : value.convert kind = value := by
  refine eq_of_agrees (canonical_convert kind value) canonical ?_ stored_convert
  rw [isValid_convert_iff]
  exact and_iff_left value.stored.inRange

/-- What a conversion gives depends on the integer and on the poison mark alone, not on the kind
that the value has. -/
theorem convert_congr {otherKind : IntKind} {other : SafeInt otherKind}
    (together : value.isValid = true ↔ other.isValid = true)
    (same : value.isValid = true → value.stored.toInt = other.stored.toInt) :
    value.convert target = other.convert target := by
  have validTogether : (value.convert target).isValid = true ↔
      (other.convert target).isValid = true := by
    rw [isValid_convert_iff, isValid_convert_iff, ← together]
    refine and_congr_right fun valid => ?_
    rw [same valid]
  refine eq_of_agrees (canonical_convert target value) (canonical_convert target other)
    validTogether ?_
  intro valid
  rw [stored_convert valid, stored_convert (validTogether.mp valid)]
  exact same (isValid_convert_iff.mp valid).1

end SafeInt

namespace Accumulator

open SafeInt

def convert (accumulator : Accumulator) (target : IntKind) : Accumulator :=
  ⟨target, accumulator.value.convert target⟩

/-- The conversion through kinds, one after the other. -/
def convertAll (accumulator : Accumulator) (targets : List IntKind) : Accumulator :=
  targets.foldl convert accumulator

theorem convertAll_append_singleton (start : Accumulator) (front : List IntKind)
    (last : IntKind) :
    start.convertAll (front ++ [last]) = (start.convertAll front).convert last :=
  List.foldl_append

theorem kind_convertAll (start : Accumulator) (targets : List IntKind) :
    (start.convertAll targets).kind = targets.getLastD start.kind := by
  cases targets using List.reverseRecOn with
  | nil => rfl
  | append_singleton front last =>
      rw [convertAll_append_singleton, List.getLastD_concat]
      rfl

theorem stored_convertAll {start : Accumulator} {targets : List IntKind}
    (valid : (start.convertAll targets).value.isValid = true) :
    (start.convertAll targets).value.stored.toInt = start.value.stored.toInt := by
  induction targets using List.reverseRecOn with
  | nil => rfl
  | append_singleton front last inductionHypothesis =>
      rw [convertAll_append_singleton] at valid ⊢
      exact (stored_convert valid).trans (inductionHypothesis (isValid_convert_iff.mp valid).1)

theorem isValid_convertAll_iff (start : Accumulator) (targets : List IntKind) :
    (start.convertAll targets).value.isValid = true ↔
      start.value.isValid = true ∧ ∀ kind ∈ targets, kind.InRange start.value.stored.toInt := by
  induction targets using List.reverseRecOn with
  | nil => exact ⟨fun valid => ⟨valid, fun _ member => nomatch member⟩, fun both => both.1⟩
  | append_singleton front last inductionHypothesis =>
      rw [convertAll_append_singleton, List.forall_mem_append, List.forall_mem_singleton,
        ← and_assoc, ← inductionHypothesis]
      refine isValid_convert_iff.trans (and_congr_right fun valid => ?_)
      -- The last conversion looks at the integer that the chain began with.
      rw [stored_convertAll valid]
      exact Iff.rfl

theorem convert_congr {first second : Accumulator} (target : IntKind)
    (together : first.value.isValid = true ↔ second.value.isValid = true)
    (same : first.value.isValid = true →
      first.value.stored.toInt = second.value.stored.toInt) :
    first.convert target = second.convert target :=
  congrArg (Accumulator.mk target) (SafeInt.convert_congr together same)

/-- A valid accumulator can be had from any other that stores the same integer. -/
theorem convert_eq_of_isValid {first second : Accumulator} (firstValid : first.value.isValid = true)
    (secondValid : second.value.isValid = true)
    (same : first.value.stored.toInt = second.value.stored.toInt) :
    first.convert second.kind = second := by
  have canonical : second.value.Canonical :=
    eq_ofWord_of_isValid secondValid ▸ canonical_ofWord second.value.stored
  rw [convert_congr second.kind (iff_of_true firstValid secondValid) fun _ => same]
  exact congrArg (Accumulator.mk second.kind) (convert_self canonical)

/-- Chains with the same kinds before their last one, in any order and any number of times. -/
theorem convertAll_append_singleton_congr (start : Accumulator) {inner other : List IntKind}
    (sameKinds : ∀ kind, kind ∈ inner ↔ kind ∈ other) (last : IntKind) :
    start.convertAll (other ++ [last]) = start.convertAll (inner ++ [last]) := by
  rw [convertAll_append_singleton, convertAll_append_singleton]
  have together : (start.convertAll other).value.isValid = true ↔
      (start.convertAll inner).value.isValid = true := by
    rw [isValid_convertAll_iff, isValid_convertAll_iff]
    simp only [sameKinds]
  refine convert_congr last together ?_
  intro valid
  rw [stored_convertAll valid, stored_convertAll (together.mp valid)]

/-- A chain of conversions ends in its last kind.  Its result is valid exactly if the value that it
starts from is valid and lies in the range of every kind of the chain, and then it stores the same
integer.  The kinds between the first and the last can be permuted and repeated.  A valid result is
that of the direct conversion, and its conversion to the first kind restores the start. -/
theorem conversion_chain (start : Accumulator) (targets : List IntKind) :
    let result := start.convertAll targets
    result.kind = targets.getLastD start.kind ∧
    (result.value.isValid = true ↔
      start.value.isValid = true ∧
        ∀ kind ∈ start.kind :: targets, kind.InRange start.value.stored.toInt) ∧
    (result.value.isValid = true →
      result.value.stored.toInt = start.value.stored.toInt) ∧
    (∀ inner other last, targets = inner ++ [last] → (∀ kind, kind ∈ inner ↔ kind ∈ other) →
      start.convertAll (other ++ [last]) = result) ∧
    (result.value.isValid = true →
      start.convert result.kind = result ∧ result.convert start.kind = start) := by
  intro result
  have decided := isValid_convertAll_iff start targets
  refine ⟨start.kind_convertAll targets, ?_, stored_convertAll, ?_, ?_⟩
  · rw [List.forall_mem_cons, and_iff_right start.value.stored.inRange]
    exact decided
  · intro inner other last split sameKinds
    rw [start.convertAll_append_singleton_congr sameKinds, ← split]
  · intro valid
    have startValid := (decided.mp valid).1
    have same := stored_convertAll valid
    exact ⟨convert_eq_of_isValid startValid valid same.symm,
      convert_eq_of_isValid valid startValid same⟩

/-- Two hundred fits in every kind of this chain, signed and unsigned, narrow and wide, and comes
back from it; minus one is lost at the first unsigned kind, however wide the last one is. -/
theorem conversion_chain_of_200 :
    let start : Accumulator := ⟨.i16, ofWord ⟨200, by decide⟩⟩
    let negative : Accumulator := ⟨.i16, ofWord ⟨-1, by decide⟩⟩
    ((start.convertAll [.i128, .usize, .i32, .u8]).convert .i16 = start ∧
      start.convert .u8 = start.convertAll [.i128, .usize, .i32, .u8] ∧
      start.convertAll [.i32, .i128, .usize, .i128, .u8] =
        start.convertAll [.i128, .usize, .i32, .u8]) ∧
      (negative.convertAll [.i64, .u128, .i128]).value.isValid = false := by
  intro start negative
  rcases conversion_chain start [.i128, .usize, .i32, .u8] with ⟨-, valid, -, rearranged, direct⟩
  have survives := valid.mpr (by decide)
  have lost := (conversion_chain negative [.i64, .u128, .i128]).2.1
  refine ⟨⟨(direct survives).2, (direct survives).1, ?_⟩, ?_⟩
  · refine rearranged [.i128, .usize, .i32] [.i32, .i128, .usize, .i128] .u8 rfl ?_
    intro kind
    cases kind <;> decide
  · rw [Bool.eq_false_iff, Ne, lost]
    decide

end Accumulator

end Assurance
