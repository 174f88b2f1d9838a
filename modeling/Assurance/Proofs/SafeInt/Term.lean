import Assurance.Proofs.Integer.Checked
import Assurance.SafeInt.Arithmetic

namespace Assurance
namespace SafeInt

/-!
# Expressions over safe integers

A term is a finite expression tree whose nodes may be of different kinds.  It
can be read in two ways.  `Term.eval` carries it out with the operations of safe
integers, which know a range and a poison mark.  `Term.ideal?` computes in
unbounded integers and knows neither; it is undefined only below a division that
has no value.

The two readings meet in `Term.eval_exact`.  A term evaluates to a valid value
exactly if its leaves are valid and every part of it, not only the whole, has an
exact value in the range of the kind of that part.  An intermediate value out of
range is therefore never repaired by what is done to it later.
-/

variable {kind : IntKind}

/-- The operations with one operand that stay in its kind. -/
inductive Unary where
  | increment | decrement | negate | abs
deriving DecidableEq, Repr

namespace Unary

def availableFor (operation : Unary) (kind : IntKind) : Bool :=
  match operation with
  | increment | decrement => true
  | negate | abs => kind.signed

def apply : Unary → SafeInt kind → SafeInt kind
  | increment => SafeInt.increment
  | decrement => SafeInt.decrement
  | negate => fun value => -value
  | abs => SafeInt.abs

/-- An operation on words, where it is defined. -/
def onWord : Unary → Word kind → Option (Word kind)
  | increment => fun word => word.add? (Word.one kind)
  | decrement => fun word => word.sub? (Word.one kind)
  | negate => Word.neg?
  | abs => fun word => if word.toInt < 0 then word.neg? else some word

/-- An operation on integers without bounds. -/
def ideal : Unary → Int → Int
  | increment => fun value => value + 1
  | decrement => fun value => value - 1
  | negate => fun value => -value
  | abs => fun value => value.natAbs

theorem checked_apply (operation : Unary) (value : SafeInt kind) :
    (operation.apply value).checked = value.checked.bind operation.onWord := by
  cases operation with
  | increment => exact checked_lift Word.add? value (ofWord (Word.one kind))
  | decrement => exact checked_lift Word.sub? value (ofWord (Word.one kind))
  | negate => exact checked_negate value
  | abs => exact checked_abs value

theorem canonical_apply (operation : Unary) {value : SafeInt kind} (canonical : value.Canonical) :
    (operation.apply value).Canonical := by
  cases operation with
  | increment => exact canonical_lift _ _ _
  | decrement => exact canonical_lift _ _ _
  | negate => exact canonical_negate value
  | abs => exact canonical_abs canonical

/-- On words an operation gives what it gives on integers, wherever that is a word. -/
theorem onWord_eq_some_iff (operation : Unary) {operand word : Word kind} :
    operation.onWord operand = some word ↔ word.toInt = operation.ideal operand.toInt := by
  cases operation with
  | increment => exact Word.ofInt?_eq_some_iff
  | decrement => exact Word.ofInt?_eq_some_iff
  | negate => exact Word.ofInt?_eq_some_iff
  | abs =>
      change (if operand.toInt < 0 then operand.neg? else some operand) = some word ↔
        word.toInt = operand.toInt.natAbs
      by_cases negative : operand.toInt < 0
      · rw [if_pos negative, Word.neg?, Word.ofInt?_eq_some_iff]
        omega
      · rw [if_neg negative, Option.some.injEq, Word.ext_iff]
        omega

end Unary

/-- The operations with two operands of one kind. -/
inductive Binary where
  | add | sub | mul | div | rem | smaller | greater
deriving DecidableEq, Repr

namespace Binary

def apply : Binary → SafeInt kind → SafeInt kind → SafeInt kind
  | add => fun left right => left + right
  | sub => fun left right => left - right
  | mul => fun left right => left * right
  | div => fun left right => left / right
  | rem => fun left right => left % right
  | smaller => SafeInt.smaller
  | greater => SafeInt.greater

/-- An operation on words, where it is defined. -/
def onWords : Binary → Word kind → Word kind → Option (Word kind)
  | add => Word.add?
  | sub => Word.sub?
  | mul => Word.mul?
  | div => Word.div?
  | rem => Word.rem?
  | smaller => fun left right => some (if right.toInt < left.toInt then right else left)
  | greater => fun left right => some (if right.toInt < left.toInt then left else right)

/-- An operation on integers without bounds.  Division truncates and has no value by zero.  The
remainder of the least value of a kind by minus one has no value either; that is the only place
where the kind matters. -/
def ideal? (kind : IntKind) : Binary → Int → Int → Option Int
  | add => fun left right => some (left + right)
  | sub => fun left right => some (left - right)
  | mul => fun left right => some (left * right)
  | div => fun left right => if right = 0 then none else some (left.tdiv right)
  | rem => fun left right =>
      if right = 0 ∨ (left = kind.min ∧ right = -1) then none else some (left.tmod right)
  | smaller => fun left right => some (min left right)
  | greater => fun left right => some (max left right)

theorem apply_eq_lift (operation : Binary) (left right : SafeInt kind) :
    operation.apply left right = lift operation.onWords left right := by
  cases operation <;> rfl

/-- On words an operation gives what it gives on integers, wherever that is a word. -/
theorem onWords_eq_some_iff (operation : Binary) {left right word : Word kind} :
    operation.onWords left right = some word ↔
      operation.ideal? kind left.toInt right.toInt = some word.toInt := by
  cases operation with
  | add => exact Word.ofInt?_eq_some_iff.trans (eq_comm.trans Option.some_inj.symm)
  | sub => exact Word.ofInt?_eq_some_iff.trans (eq_comm.trans Option.some_inj.symm)
  | mul => exact Word.ofInt?_eq_some_iff.trans (eq_comm.trans Option.some_inj.symm)
  | div =>
      refine Word.div?_eq_some_iff.trans ?_
      simp only [ideal?]
      by_cases zero : right.toInt = 0
      · simp [zero]
      · simp [zero, eq_comm]
  | rem =>
      refine Word.rem?_eq_some_iff.trans ?_
      simp only [ideal?, Word.DivisionOverflows]
      by_cases undefined : right.toInt = 0 ∨ (left.toInt = kind.min ∧ right.toInt = -1)
      · rw [if_pos undefined]
        simp only [reduceCtorEq, iff_false]
        rintro ⟨⟨nonzero, regular⟩, -⟩
        exact undefined.elim nonzero regular
      · rw [if_neg undefined]
        have regular := not_or.mp undefined
        simp only [ne_eq, regular, not_false_eq_true, and_self, true_and, Option.some.injEq]
        exact eq_comm
  | smaller =>
      simp only [onWords, ideal?, Option.some.injEq, Word.ext_iff]
      by_cases less : right.toInt < left.toInt
      · rw [if_pos less]
        omega
      · rw [if_neg less]
        omega
  | greater =>
      simp only [onWords, ideal?, Option.some.injEq, Word.ext_iff]
      by_cases less : right.toInt < left.toInt
      · rw [if_pos less]
        omega
      · rw [if_neg less]
        omega

end Binary

/-! ## Terms and their two readings -/

/-- An expression tree whose value is of a given kind.  A leaf is a value as it can be built, valid
or poisoned. -/
inductive Term : IntKind → Type where
  | leaf {kind : IntKind} (value : SafeInt kind) (canonical : value.Canonical) : Term kind
  | unary {kind : IntKind} (operation : Unary) (available : operation.availableFor kind = true)
      (operand : Term kind) : Term kind
  | binary {kind : IntKind} (operation : Binary) (left right : Term kind) : Term kind
  | convert {kind : IntKind} (target : IntKind) (operand : Term kind) : Term target

namespace Term

/-- The value of a term by the operations of safe integers. -/
def eval {kind : IntKind} : Term kind → SafeInt kind
  | leaf value _ => value
  | unary operation _ operand => operation.apply operand.eval
  | binary operation left right => operation.apply left.eval right.eval
  | convert target operand => operand.eval.convert target

/-- The value of a term in integers without bounds, where a leaf counts as the integer that it
stores, poisoned or not. -/
def ideal? {kind : IntKind} : Term kind → Option Int
  | leaf value _ => some value.stored.toInt
  | unary operation _ operand => operand.ideal?.map operation.ideal
  | binary operation left right =>
      left.ideal?.bind fun first => right.ideal?.bind fun second =>
        operation.ideal? kind first second
  | convert _ operand => operand.ideal?

/-- The parts of a term with their kinds, the term itself included. -/
def parts {kind : IntKind} : Term kind → List (Σ kind, Term kind)
  | leaf value canonical => [⟨kind, leaf value canonical⟩]
  | unary operation available operand =>
      ⟨kind, unary operation available operand⟩ :: operand.parts
  | binary operation left right =>
      ⟨kind, binary operation left right⟩ :: (left.parts ++ right.parts)
  | convert target operand => ⟨target, convert target operand⟩ :: operand.parts

/-- The leaves of a term with their kinds. -/
def leaves {kind : IntKind} : Term kind → List (Σ kind, SafeInt kind)
  | leaf value _ => [⟨kind, value⟩]
  | unary _ _ operand => operand.leaves
  | binary _ left right => left.leaves ++ right.leaves
  | convert _ operand => operand.leaves

/-- The term has an ideal value, and it lies in the range of the term's kind. -/
def Fits (term : Term kind) : Prop :=
  ∃ value, term.ideal? = some value ∧ kind.InRange value

def LeavesValid (term : Term kind) : Prop :=
  ∀ leaf ∈ term.leaves, leaf.2.isValid = true

def PartsFit (term : Term kind) : Prop :=
  ∀ part ∈ term.parts, part.2.Fits

/-- Nothing in the term stands in the way of a valid value. -/
structure Sound (term : Term kind) : Prop where
  leavesValid : term.LeavesValid
  partsFit : term.PartsFit

theorem self_mem_parts (term : Term kind) : ⟨kind, term⟩ ∈ term.parts := by
  cases term <;> exact List.mem_cons_self

/-- A sound term has a word for its ideal value. -/
theorem Sound.exists_word {term : Term kind} (sound : term.Sound) :
    ∃ word : Word kind, term.ideal? = some word.toInt := by
  rcases sound.partsFit _ term.self_mem_parts with ⟨value, defined, inside⟩
  exact ⟨⟨value, inside⟩, defined⟩

theorem sound_leaf_iff {value : SafeInt kind} {canonical : value.Canonical} :
    (leaf value canonical).Sound ↔ value.isValid = true := by
  constructor
  · intro sound
    exact sound.leavesValid ⟨kind, value⟩ List.mem_cons_self
  · intro valid
    refine ⟨?_, ?_⟩
    · intro found member
      cases List.mem_singleton.mp member
      exact valid
    · intro part member
      cases List.mem_singleton.mp member
      exact ⟨value.stored.toInt, rfl, value.stored.inRange⟩

theorem sound_unary_iff {operation : Unary} {available : operation.availableFor kind = true}
    {operand : Term kind} :
    (unary operation available operand).Sound ↔
      operand.Sound ∧ (unary operation available operand).Fits := by
  constructor
  · rintro ⟨leavesValid, partsFit⟩
    rcases List.forall_mem_cons.mp partsFit with ⟨own, below⟩
    exact ⟨⟨leavesValid, below⟩, own⟩
  · rintro ⟨⟨leavesValid, partsFit⟩, own⟩
    exact ⟨leavesValid, List.forall_mem_cons.mpr ⟨own, partsFit⟩⟩

theorem sound_binary_iff {operation : Binary} {left right : Term kind} :
    (binary operation left right).Sound ↔
      (left.Sound ∧ right.Sound) ∧ (binary operation left right).Fits := by
  constructor
  · rintro ⟨leavesValid, partsFit⟩
    rcases List.forall_mem_append.mp leavesValid with ⟨leavesLeft, leavesRight⟩
    rcases List.forall_mem_cons.mp partsFit with ⟨own, below⟩
    rcases List.forall_mem_append.mp below with ⟨partsLeft, partsRight⟩
    exact ⟨⟨⟨leavesLeft, partsLeft⟩, ⟨leavesRight, partsRight⟩⟩, own⟩
  · rintro ⟨⟨soundLeft, soundRight⟩, own⟩
    refine ⟨List.forall_mem_append.mpr ⟨soundLeft.leavesValid, soundRight.leavesValid⟩, ?_⟩
    exact List.forall_mem_cons.mpr
      ⟨own, List.forall_mem_append.mpr ⟨soundLeft.partsFit, soundRight.partsFit⟩⟩

theorem sound_convert_iff {target : IntKind} {operand : Term kind} :
    (convert target operand).Sound ↔ operand.Sound ∧ (convert target operand).Fits := by
  constructor
  · rintro ⟨leavesValid, partsFit⟩
    rcases List.forall_mem_cons.mp partsFit with ⟨own, below⟩
    exact ⟨⟨leavesValid, below⟩, own⟩
  · rintro ⟨⟨leavesValid, partsFit⟩, own⟩
    exact ⟨leavesValid, List.forall_mem_cons.mpr ⟨own, partsFit⟩⟩

/-! ## The two readings agree -/

/-- The induction over the tree.  At a node the operands are sound, so their ideal values are words,
and the operation on these words is decided by the ideal operation on the integers. -/
theorem checked_eval_eq_some_iff (term : Term kind) (word : Word kind) :
    term.eval.checked = some word ↔ term.Sound ∧ term.ideal? = some word.toInt := by
  induction term with
  | leaf value canonical =>
      rcases value with ⟨stored, mark⟩
      rw [sound_leaf_iff]
      cases mark with
      | false => simp [eval, ideal?, checked, isValid, Word.ext_iff]
      | true => simp [eval, checked, isValid]
  | unary operation available operand inductionHypothesis =>
      rw [eval, Unary.checked_apply, Option.bind_eq_some_iff, sound_unary_iff]
      constructor
      · rintro ⟨inner, innerRead, defined⟩
        rcases (inductionHypothesis inner).mp innerRead with ⟨soundInner, innerIdeal⟩
        have own : (unary operation available operand).ideal? = some word.toInt := by
          rw [ideal?, innerIdeal, (operation.onWord_eq_some_iff).mp defined]
          rfl
        exact ⟨⟨soundInner, word.toInt, own, word.inRange⟩, own⟩
      · rintro ⟨⟨soundInner, -⟩, own⟩
        rcases soundInner.exists_word with ⟨inner, innerIdeal⟩
        refine ⟨inner, (inductionHypothesis inner).mpr ⟨soundInner, innerIdeal⟩, ?_⟩
        rw [ideal?, innerIdeal] at own
        exact (operation.onWord_eq_some_iff).mpr (Option.some.inj own).symm
  | binary operation left right leftHypothesis rightHypothesis =>
      rw [eval, Binary.apply_eq_lift, checked_lift, Option.bind_eq_some_iff, sound_binary_iff]
      constructor
      · rintro ⟨first, firstRead, rest⟩
        rcases Option.bind_eq_some_iff.mp rest with ⟨second, secondRead, defined⟩
        rcases (leftHypothesis first).mp firstRead with ⟨soundLeft, leftIdeal⟩
        rcases (rightHypothesis second).mp secondRead with ⟨soundRight, rightIdeal⟩
        have own : (binary operation left right).ideal? = some word.toInt := by
          rw [ideal?, leftIdeal, rightIdeal]
          exact (operation.onWords_eq_some_iff).mp defined
        exact ⟨⟨⟨soundLeft, soundRight⟩, word.toInt, own, word.inRange⟩, own⟩
      · rintro ⟨⟨⟨soundLeft, soundRight⟩, -⟩, own⟩
        rcases soundLeft.exists_word with ⟨first, leftIdeal⟩
        rcases soundRight.exists_word with ⟨second, rightIdeal⟩
        rw [ideal?, leftIdeal, rightIdeal] at own
        refine ⟨first, (leftHypothesis first).mpr ⟨soundLeft, leftIdeal⟩, ?_⟩
        rw [(rightHypothesis second).mpr ⟨soundRight, rightIdeal⟩]
        exact (operation.onWords_eq_some_iff).mpr own
  | convert target operand inductionHypothesis =>
      rw [eval, checked_convert, Option.bind_eq_some_iff, sound_convert_iff]
      constructor
      · rintro ⟨inner, innerRead, defined⟩
        rcases (inductionHypothesis inner).mp innerRead with ⟨soundInner, innerIdeal⟩
        have own : (convert target operand).ideal? = some word.toInt := by
          rw [ideal?, innerIdeal, Word.ofInt?_eq_some_iff.mp defined]
        exact ⟨⟨soundInner, word.toInt, own, word.inRange⟩, own⟩
      · rintro ⟨⟨soundInner, -⟩, own⟩
        rcases soundInner.exists_word with ⟨inner, innerIdeal⟩
        refine ⟨inner, (inductionHypothesis inner).mpr ⟨soundInner, innerIdeal⟩, ?_⟩
        rw [ideal?, innerIdeal] at own
        exact Word.ofInt?_eq_some_iff.mpr (Option.some.inj own).symm

/-- Every value that a term takes is canonical, since its leaves are. -/
theorem canonical_eval (term : Term kind) : term.eval.Canonical := by
  induction term with
  | leaf value canonical => exact canonical
  | unary operation available operand inductionHypothesis =>
      exact operation.canonical_apply inductionHypothesis
  | binary operation left right leftHypothesis rightHypothesis =>
      rw [eval, Binary.apply_eq_lift]
      exact canonical_lift _ _ _
  | convert target operand inductionHypothesis => exact canonical_convert target _

/-- A term whose leaves are valid and whose parts all fit evaluates to its ideal value; every other
term evaluates to the poisoned value, which stores zero. -/
theorem eval_exact (term : Term kind) :
    (∀ word : Word kind, term.eval.checked = some word ↔
      (term.LeavesValid ∧ term.PartsFit) ∧ term.ideal? = some word.toInt) ∧
    (term.LeavesValid ∧ term.PartsFit → ∃ word : Word kind, term.eval.checked = some word) ∧
    (¬ (term.LeavesValid ∧ term.PartsFit) → term.eval = failure kind) := by
  have sound_iff : term.Sound ↔ term.LeavesValid ∧ term.PartsFit :=
    ⟨fun sound => ⟨sound.leavesValid, sound.partsFit⟩, fun both => ⟨both.1, both.2⟩⟩
  rw [← sound_iff]
  refine ⟨term.checked_eval_eq_some_iff, ?_, ?_⟩
  · intro sound
    rcases sound.exists_word with ⟨word, ideal⟩
    exact ⟨word, (term.checked_eval_eq_some_iff word).mpr ⟨sound, ideal⟩⟩
  · intro unsound
    have unread : term.eval.checked = none := by
      rw [Option.eq_none_iff_forall_ne_some]
      intro word read
      exact unsound ((term.checked_eval_eq_some_iff word).mp read).1
    rw [← ofOption_checked term.canonical_eval, unread]
    rfl

example :
    let one : Term .u8 := leaf (SafeInt.one .u8) (canonical_ofWord _)
    let most : Term .u8 := leaf (SafeInt.maximum .u8) (canonical_ofWord _)
    (binary .sub (binary .add most one) one).ideal? = some 255 ∧
      (binary .sub (binary .add most one) one).eval = failure .u8 := by
  decide

end Term

end SafeInt
end Assurance
