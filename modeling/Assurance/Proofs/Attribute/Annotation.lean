import Assurance.Proofs.Attribute.Acceptance
import Assurance.Proofs.Source.Occurrence
import Assurance.Proofs.Source.Signature

namespace Assurance
namespace Attribute

/-!
# Annotated results

A condition for the exit turns the block of a function into a closure.  The
return type of the function is written again at the closure, and at the name that
its result gets, so that the block is still read as a value of that type.

A type that mentions `impl` cannot be written at a closure.  Such a type is left
open in both places, and no other type is.  Types are lists of tokens with groups
inside groups, so `impl` may stand at any depth; a raw identifier and a name that
only contains it do not count.

Main statement: `closure_annotated_iff`.
-/

open Source Source.Grammar

/-- A type that is left open: at some depth it has an identifier that is written `impl`. -/
def LeftOpen (type : List Token) : Prop :=
  ∃ depth raw name, .ident raw name ∈ Token.atDepth depth type ∧ Token.identText raw name = "impl"

/-- A raw identifier is written with `r#` in front, so it is never written `impl`. -/
theorem identText_eq_impl_iff {raw : Bool} {name : String} :
    Token.identText raw name = "impl" ↔ Token.ident raw name = Token.word "impl" := by
  cases raw with
  | false => simp [Token.identText, Token.word]
  | true =>
      constructor
      · intro written
        have chars : ("r#" ++ name).toList = "impl".toList := congrArg String.toList written
        rw [String.toList_append] at chars
        exact absurd (List.cons.inj chars).1 (by decide)
      · intro same
        cases same

theorem leftOpen_iff_occurs {type : List Token} : LeftOpen type ↔ Token.Occurs "impl" type := by
  simp only [LeftOpen, identText_eq_impl_iff, Token.occurs_iff_exists_depth]
  constructor
  · rintro ⟨depth, raw, name, member, same⟩
    exact ⟨depth, same ▸ member⟩
  · rintro ⟨depth, member⟩
    exact ⟨depth, false, "impl", member, rfl⟩

theorem anyMentions_impl_iff {type : List Token} :
    Token.anyMentions "impl" type = true ↔ LeftOpen type :=
  Token.anyMentions_eq_true_iff.trans leftOpen_iff_occurs.symm

theorem not_leftOpen_unit : ¬ LeftOpen [.group .parenthesis []] := by
  rw [← anyMentions_impl_iff]
  simp [Token.anyMentions, Token.mentions]

/-- The type of what a function returns: the unit type if its signature has no result type. -/
def returnType (result : Option (List Token)) : List Token := result.getD [.group .parenthesis []]

theorem annotation?_eq_some_iff {result : Option (List Token)} {type : List Token} :
    annotation? result = some type ↔ type = returnType result ∧ ¬ LeftOpen (returnType result) := by
  cases result with
  | none =>
      constructor
      · intro unit
        exact ⟨(Option.some.inj unit).symm, not_leftOpen_unit⟩
      · rintro ⟨rfl, -⟩
        rfl
  | some declared =>
      rw [← anyMentions_impl_iff]
      change (if Token.anyMentions "impl" declared then none else some declared) = some type ↔
        type = declared ∧ ¬ Token.anyMentions "impl" declared = true
      by_cases mentioned : Token.anyMentions "impl" declared = true
      · simp [mentioned]
      · simp [mentioned, eq_comm]

theorem annotation?_eq_none_iff {result : Option (List Token)} :
    annotation? result = none ↔ LeftOpen (returnType result) := by
  simp [Option.eq_none_iff_forall_ne_some, annotation?_eq_some_iff]

theorem typeBehind_inj {mark : List Token} (marked : mark ≠ []) {type other : Option (List Token)} :
    typeBehind mark type = typeBehind mark other ↔ type = other := by
  cases type <;> cases other <;> simp [typeBehind, marked]

/-- A closure without parameters around a block, with a result type or without one. -/
def closureAround (type : Option (List Token)) (block : Token) : List Token :=
  Token.operator "||" ++ typeBehind (Token.operator "->") type ++ [block]

theorem closureAround_inj {type other : Option (List Token)} {block : Token} :
    closureAround type block = closureAround other block ↔ type = other := by
  have arrow : Token.operator "->" ≠ [] := List.cons_ne_nil _ _
  rw [closureAround, closureAround, List.append_left_inj, List.append_right_inj,
    typeBehind_inj arrow]

/-- The statement that calls a closure and binds the result to a name, behind which some tokens
stand. -/
def bindingStatement (named closure : List Token) : List Token :=
  allowImmediateCall ++ [Token.word "let", Token.word "ret"] ++ named ++ [Token.mark '=',
    .group .parenthesis closure, .group .parenthesis [], Token.mark ';']

/-- The name of a result and the closure that gives it have the same type, or none. -/
theorem resultStatement_eq_binding {result written : Option (List Token)}
    (annotates : annotation? result = written) (block : Token) :
    resultStatement result block =
      bindingStatement (typeBehind [Token.mark ':'] written) (closureAround written block) := by
  rw [resultStatement, annotates]
  cases written <;> simp [bindingStatement, closureAround, typeBehind]

/-- First, the search for `impl` in a type succeeds exactly if an identifier of the type, at any
depth, is written so.  Second, the signature of a function is laid out around the result type of the
function.  Third, a condition for the exit that can be read, on a function that is not asynchronous,
expands to a closure around the block of the function, which is called where its result gets a name.
The closure is annotated with a type exactly if that is the return type and `impl` does not stand in
it, and with none exactly if it does; and so is the name. -/
theorem closure_annotated_iff :
    (∀ type : List Token, Token.anyMentions "impl" type = true ↔ LeftOpen type) ∧
    (∀ (item : List Token) (function : FunctionItem),
      HostLanguage.standard.functionItem? item = some function →
        StatesResult function.result function.signature) ∧
    ∀ (host : HostLanguage) (tokens item : List Token) (argument : Argument)
      (function : FunctionItem), Argument.read host tokens = .ok argument →
      host.functionItem? item = some function → function.isAsync = false →
        let result := returnType function.result
        ∃ named closure,
          expand host .ensures tokens item = .ok (function.outerAttributes ++
            function.innerAttributes ++ function.visibility ++ function.signature ++
              [.group .brace (bindingStatement named closure ++
                callStatement (calledFunction .ensures argument.tier) argument.condition ++
                  [Token.word "ret"])]) ∧
          (∀ type, closure = closureAround (some type) function.block ↔
            type = result ∧ ¬ LeftOpen result) ∧
          (closure = closureAround none function.block ↔ LeftOpen result) ∧
          (∀ type, named = typeBehind [Token.mark ':'] (some type) ↔
            type = result ∧ ¬ LeftOpen result) ∧
          (named = typeBehind [Token.mark ':'] none ↔ LeftOpen result) := by
  refine ⟨fun type => anyMentions_impl_iff, fun item function => statesResult_of_functionItem?, ?_⟩
  intro host tokens item argument function accepted read waits result
  have colon : [Token.mark ':'] ≠ [] := List.cons_ne_nil _ _
  obtain ⟨written, annotates⟩ : ∃ written, annotation? function.result = written := ⟨_, rfl⟩
  have typed (type : List Token) : written = some type ↔ type = result ∧ ¬ LeftOpen result := by
    rw [← annotates]
    exact annotation?_eq_some_iff
  have untyped : written = none ↔ LeftOpen result := by
    rw [← annotates]
    exact annotation?_eq_none_iff
  refine ⟨typeBehind [Token.mark ':'] written, closureAround written function.block, ?_, ?_, ?_, ?_,
    ?_⟩
  · rw [expand_eq_ok accepted read waits, attached_clause, aroundBlock,
      resultStatement_eq_binding annotates]
  · intro type
    exact closureAround_inj.trans (typed type)
  · exact closureAround_inj.trans untyped
  · intro type
    exact (typeBehind_inj colon).trans (typed type)
  · exact (typeBehind_inj colon).trans untyped

/-- An array of pairs in which `impl` stands as a raw identifier and in a longer name, and one in
which it stands two groups deep. -/
theorem closure_annotated_nested :
    let block : Token := .group .brace [.literal "1"]
    let head : List Token := [Token.word "fn", Token.word "f", .group .parenthesis []]
    let pairs (inner : List Token) : List Token :=
      [.group .bracket [.group .parenthesis inner, Token.mark ';', .group .brace [.literal "2"]]]
    let settled := pairs [.ident true "impl", Token.mark ',', Token.word "implied"]
    let opened := pairs [Token.word "u8", Token.mark ',', Token.word "impl", Token.word "Copy"]
    let item (type : List Token) : List Token := head ++ Token.operator "->" ++ type ++ [block]
    let output (type : List Token) (written : Option (List Token)) : List Token :=
      head ++ Token.operator "->" ++ type ++ [.group .brace
        (bindingStatement (typeBehind [Token.mark ':'] written) (closureAround written block) ++
          callStatement "ensures_at" [Token.word "ret"] ++ [Token.word "ret"])]
    StatesResult (some settled) (head ++ Token.operator "->" ++ settled) ∧
      expand .standard .ensures [Token.word "ret"] (item settled) =
        .ok (output settled (some settled)) ∧
      expand .standard .ensures [Token.word "ret"] (item opened) = .ok (output opened none) := by
  intro block head pairs settled opened item output
  have accepted : Argument.read .standard [Token.word "ret"] =
      .ok ⟨.default, [Token.word "ret"]⟩ := by decide +kernel
  have readSettled : HostLanguage.standard.functionItem? (item settled) =
      some ⟨[], [], [], false, head ++ Token.operator "->" ++ settled, some settled, block⟩ := by
    decide +kernel
  have readOpened : HostLanguage.standard.functionItem? (item opened) =
      some ⟨[], [], [], false, head ++ Token.operator "->" ++ opened, some opened, block⟩ := by
    decide +kernel
  obtain ⟨detects, states, expands⟩ := closure_annotated_iff
  refine ⟨states _ _ readSettled, ?_, ?_⟩
  · have unopened : ¬ LeftOpen settled := mt (detects settled).mpr (by decide)
    obtain ⟨named, closure, expanded, typed, -, namedTyped, -⟩ :=
      expands _ _ _ _ _ accepted readSettled rfl
    rw [(typed settled).mpr ⟨rfl, unopened⟩, (namedTyped settled).mpr ⟨rfl, unopened⟩] at expanded
    exact expanded
  · have leftOpen : LeftOpen opened := (detects opened).mp (by decide)
    obtain ⟨named, closure, expanded, -, untyped, -, namedUntyped⟩ :=
      expands _ _ _ _ _ accepted readOpened rfl
    rw [untyped.mpr leftOpen, namedUntyped.mpr leftOpen] at expanded
    exact expanded

end Attribute
end Assurance
