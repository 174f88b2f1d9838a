import Assurance.Contract.Body
import Assurance.Integer.Decimal
import Assurance.SafeInt.Arithmetic

namespace Assurance
namespace Example

/-!
# Example functions under contract

Small functions with conditions attached, in every tier and both moments, left
at the end and early, some with a block that breaks what they promise.  Each is
a body of actions; calling it runs its conditions and its block.
-/

/-- A call of one of the example functions with its arguments. -/
inductive Call where
  | quotient (dividend divisor : UInt32)
  | wrongDouble (number : UInt32)
  | firstSorted (items : List UInt32)
  | axiomOnly
  | parseLength (text : String)
  | area (width height : UInt32)
  | bump (start : UInt32)
deriving DecidableEq, Repr

/-- The path of the called function inside the module of the examples. -/
def Call.function : Call → String
  | quotient .. => "quotient"
  | wrongDouble .. => "wrong_double"
  | firstSorted .. => "first_sorted"
  | axiomOnly => "axiom_only"
  | parseLength .. => "parse_len"
  | area .. => "area"
  | bump .. => "Counter::bump"

/-- Whether no item is greater than the one after it. -/
def isAscending : List UInt32 → Bool
  | first :: second :: items => first ≤ second && isAscending (second :: items)
  | _ => true

/-- The body of a function whose conditions and block do nothing but compute. -/
abbrev PureBody (ρ : Type) : Type := Body Bool (ρ → Bool) (Completion ρ)

/-- A computing body as a body of actions. -/
def PureBody.actions {σ ρ : Type} :
    PureBody ρ → Body (Action σ Bool) (ρ → Action σ Bool) (Action σ (Completion ρ))
  | .block completion => .block (pure completion)
  | .entry tier condition inner => .entry tier (pure condition) (actions inner)
  | .exit inner tier condition => .exit (actions inner) tier fun result => pure (condition result)

/-- Divide; promises a quotient no greater than the dividend. -/
def quotient (dividend divisor : UInt32) : PureBody UInt32 :=
  (Body.block (.tail (dividend / max divisor 1))).attachAll
    [.entry .default (divisor != 0), .exit .default fun result => decide (result ≤ dividend)]

/-- Double, but give an odd number for three; promises an even number. -/
def wrongDouble (number : UInt32) : PureBody UInt32 :=
  (Body.block (if number = 3 then .early 7 else .tail (number * 2))).attach
    (.exit .default fun result => result % 2 == 0)

/-- The first of some items that should ascend. -/
def firstSorted (items : List UInt32) : PureBody (Option UInt32) :=
  (Body.block (.tail items.head?)).attach (.entry .audit (isAscending items))

/-- One, under an assumption that does not hold. -/
def axiomOnly : PureBody UInt32 :=
  (Body.block (.tail 1)).attach (.entry .assumed false)

/-- The length that a numeral denotes; promises that there is one. -/
def parseLength (text : String) : PureBody (Option (Word .usize)) :=
  (Body.block (match Word.read? .usize text with
    | some length => .tail (some length)
    | none => .early none)).attach
    (.exit .default Option.isSome)

/-- The area of a rectangle; promises that it can be represented. -/
def area (width height : UInt32) : PureBody (SafeInt .u32) :=
  let side (length : UInt32) : SafeInt .u32 := SafeInt.ofOption (Word.ofInt? .u32 length.toNat)
  (Body.block (.tail (SafeInt.Operator.mul.apply (side width) (side height)))).attach
    (.exit .default SafeInt.isValid)

/-- Count one further; expects a small count and promises to give the new one. -/
def bump {σ : Type} : Body (Action (σ × UInt32) Bool) (UInt32 → Action (σ × UInt32) Bool)
    (Action (σ × UInt32) (Completion UInt32)) :=
  (Body.block do
    Action.update fun (outer, count) => (outer, count + 1)
    let count ← Action.read Prod.snd
    pure (.tail count)).attachAll
    [.entry .default (Action.read fun (_, count) => decide (count < 10)),
     .exit .default fun result => Action.read fun (_, count) => count == result]

/-- Run an action on a counter of its own and log the count that it leaves, unless it aborts. -/
def counting {η α : Type} (start : UInt32) (action : Action (Machine η × UInt32) α) :
    Action (Machine η) α := fun machine =>
  let ((outcome, count), after) := action.withOwn start machine
  match outcome with
  | .aborted => (.aborted, after)
  | outcome => (outcome, { after with log := after.log ++ [.counted count.toNat] })

/-- Make a call in a program; the result is a number, or nothing. -/
def Call.run {η : Type} (program : Program η) (location : Location) (call : Call) :
    Action (Machine η) (Option Nat) :=
  let check (tier : Tier) (family : Family) (holds : Bool) : Action (Machine η) Unit :=
    program.checkBuild tier family holds location
  let run {ρ : Type} (body : PureBody ρ) (number : ρ → Option Nat) :
      Action (Machine η) (Option Nat) := do
    let result ← body.actions.call check
    pure (number result)
  match call with
  | quotient dividend divisor =>
      run (Example.quotient dividend divisor) fun result => some result.toNat
  | wrongDouble number => run (Example.wrongDouble number) fun result => some result.toNat
  | firstSorted items => run (Example.firstSorted items) (Option.map UInt32.toNat)
  | axiomOnly => run Example.axiomOnly fun result => some result.toNat
  | parseLength text => run (Example.parseLength text) (Option.map fun word => word.toInt.toNat)
  | area width height =>
      run (Example.area width height) fun result =>
        result.checked.map fun word => word.toInt.toNat
  | bump start => do
      let result ← counting start
        (Example.bump.call fun tier family holds => (check tier family holds).onFirst)
      pure (some result.toNat)

end Example
end Assurance
