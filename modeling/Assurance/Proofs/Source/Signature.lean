import Assurance.Proofs.Source.Adding
import Assurance.Source.Grammar

namespace Assurance
namespace Source
namespace Grammar

/-!
# The layout of signatures

The reader of a signature writes it down and tells the result type apart from
that.  Both agree: the written signature is laid out around the type that is
told, which stands behind an arrow right after the parameters.  Where no type is
told there is no arrow.

What the readers of all parts do is of no importance here.  The parts that they
write are enclosed in brackets of some kind, are told, or stand at the end.

Main statement: `statesResult_of_functionItem?`.
-/

open Reader

variable {read : Readers}

/-- A type behind a mark that announces it, or nothing. -/
def typeBehind (mark : List Token) : Option (List Token) → List Token
  | none => []
  | some type => mark ++ type

/-- A signature with a result type: `fn` and a name behind words that qualify the function, generic
parameters between angle brackets, parameters, the result type behind an arrow, and conditions
behind a keyword.  Without a result type there is no arrow. -/
inductive StatesResult (result : Option (List Token)) : List Token → Prop where
  | layout {qualifiers generics parameters conditions : List Token} {raw : Bool} {name : String}
      (qualified : Token.word "fn" ∉ qualifiers) (generic : generics = [] ∨ Angled generics)
      (conditional : conditions = [] ∨ ∃ rest, conditions = Token.word "where" :: rest) :
      StatesResult result (qualifiers ++ [Token.word "fn", .ident raw name] ++ generics ++
        [.group .parenthesis parameters] ++ typeBehind (Token.operator "->") result ++ conditions)

/-- A qualifying word is not the word that begins a function. -/
theorem adds_qualifier {name : String} (other : name ≠ "fn") :
    Adds (word? name) fun _ added => Token.word "fn" ∉ added := by
  apply (adds_word? name).mono
  rintro found _ rfl
  split
  · simpa [Token.word] using other.symm
  · simp

theorem adds_convention : Adds convention fun _ added => Token.word "fn" ∉ added := by
  refine (adds_qualifier (by decide)).bind fun external front qualified => ?_
  split
  · refine adds_seen (fun tokens token rest begins seen => ?_) ?_
    · rw [Tokens.textNext, begins] at seen
      cases token with
      | literal text => simpa [Token.word] using qualified
      | _ => cases seen
    · exact Adds.pure (by simpa using qualified)
  · exact Adds.pure (by simpa using qualified)

theorem adds_generics : Adds (generics read) fun _ added => added = [] ∨ Angled added := by
  refine adds_sees_bind fun opens => ?_
  split
  · refine (adds_angled (parameter read)).aside.bind fun told _ listed => ?_
    obtain ⟨found, written⟩ := told
    obtain ⟨rfl, angled⟩ := listed
    dsimp only
    split
    · apply (adds_write written).mono
      rintro _ _ rfl
      exact Or.inr angled
    · exact Adds.pure (Or.inl rfl)
  · exact Adds.pure (Or.inl rfl)

theorem adds_result :
    Adds (result read) fun type added => added = typeBehind (Token.operator "->") type := by
  refine (adds_operator? "->").bind fun arrow _ arrowed => ?_
  subst arrowed
  split
  · refine (adds_aside _).bind fun told _ nothing => ?_
    obtain ⟨shape, type⟩ := told
    subst nothing
    refine (adds_write type).bind fun _ _ written => ?_
    subst written
    exact Adds.pure (by simp [typeBehind])
  · exact Adds.pure rfl

theorem adds_conditions :
    Adds (conditions read) fun _ added =>
      added = [] ∨ ∃ rest, added = Token.word "where" :: rest := by
  refine adds_sees_bind fun follow => ?_
  split
  · refine (adds_word "where").aside.bind fun told _ keyword => ?_
    obtain ⟨_, written⟩ := told
    obtain ⟨rfl, rfl⟩ := keyword
    refine (adds_aside _).bind fun listed _ nothing => ?_
    subst nothing
    dsimp only
    split
    · apply (adds_write _).mono
      rintro _ _ rfl
      exact Or.inr ⟨listed.2, rfl⟩
    · exact Adds.pure (Or.inl rfl)
  · exact Adds.pure (Or.inl rfl)

/-- A signature behind its first qualifying words. -/
theorem adds_fromConvention {qualifiers : List Token} (qualified : Token.word "fn" ∉ qualifiers)
    (isAsync isSafe : Bool) :
    Adds (do
      convention
      word "fn"
      name
      generics read
      functionParameters read
      let result ← result read
      conditions read
      return ({ isAsync, isSafe, result } : Signature))
        fun about added => StatesResult about.result (qualifiers ++ added) := by
  refine adds_convention.bind fun _ called unnamed => ?_
  refine (adds_word "fn").bind fun _ _ keyword => ?_
  refine adds_name.bind fun _ _ named => ?_
  refine adds_generics.bind fun _ generics generic => ?_
  refine (adds_group _ _).bind fun _ _ enclosed => ?_
  refine adds_result.bind fun type _ arrowed => ?_
  refine adds_conditions.bind fun _ conditions conditional => ?_
  obtain ⟨raw, text, rfl⟩ := named
  obtain ⟨parameters, rfl⟩ := enclosed
  subst keyword arrowed
  have all : Token.word "fn" ∉ qualifiers ++ called := by
    rw [List.mem_append, not_or]
    exact ⟨qualified, unnamed⟩
  apply Adds.pure
  simpa using StatesResult.layout all generic conditional

/-- A signature is written around the result type that is told about it. -/
theorem adds_signature (markedSafe : Bool) :
    Adds (signature read markedSafe) fun about => StatesResult about.result := by
  refine (adds_qualifier (by decide)).discard.bind fun _ constant first => ?_
  refine (adds_qualifier (by decide)).bind fun isAsync asynchronous second => ?_
  refine (adds_qualifier (by decide)).bind fun isUnsafe marked third => ?_
  have behind (isSafe : Bool) {safe : List Token} (fourth : Token.word "fn" ∉ safe) :=
    @adds_fromConvention read (constant ++ (asynchronous ++ (marked ++ safe)))
      (by simp [first, second, third, fourth]) isAsync isSafe
  simp only [List.append_assoc] at behind
  dsimp only
  split
  · exact (adds_qualifier (by decide)).bind fun isSafe safe fourth => behind isSafe fourth
  · rw [pure_bind]
    exact behind false List.not_mem_nil

/-- What is said about the parts of a function that was read. -/
structure WellFormed (function : FunctionItem) : Prop where
  outer : Attributes (Token.operator "#") function.outerAttributes
  inner : Attributes (Token.operator "#" ++ Token.operator "!") function.innerAttributes
  states : StatesResult function.result function.signature

theorem adds_functionHead :
    Adds (functionHead read) fun head _ =>
      Attributes (Token.operator "#") head.2.1 ∧ StatesResult head.1.result head.2.2.2 := by
  refine adds_outerAttributes.aside.bind fun outer _ attributed => ?_
  refine (adds_aside _).bind fun visible _ _ => ?_
  exact (adds_signature false).aside.bind fun told _ signed =>
    Adds.pure ⟨attributed.2, signed.2⟩

theorem adds_functionItem : Adds (functionItem read) fun function _ => WellFormed function := by
  refine adds_functionHead.bind fun head _ formed => ?_
  obtain ⟨about, outer, visible, declared⟩ := head
  have tells (tape : Tape) (inner : List Token) (after : Tape)
      (found : functionBody read tape = some (inner, after)) :
      Attributes (Token.operator "#" ++ Token.operator "!") inner := by
    obtain ⟨⟨told, between⟩, first, others⟩ := Option.bind_eq_some_iff.mp found
    obtain ⟨⟨_, ended⟩, -, same⟩ := Option.bind_eq_some_iff.mp others
    cases same
    obtain ⟨_, -, -, formed⟩ := adds_innerAttributes.aside _ _ _ first
    exact formed
  refine (adds_group_of tells .brace).aside.bind fun enclosed _ attributed => ?_
  obtain ⟨inner, braced⟩ := enclosed
  dsimp only
  split
  · exact Adds.pure ⟨formed.1, attributed.2.1, formed.2⟩
  · exact Adds.failure

theorem wellFormed_of_functionItem? {item : List Token} {function : FunctionItem}
    (found : functionItem? item = some function) : WellFormed function := by
  obtain ⟨⟨_, written⟩, whole, rfl⟩ := Option.map_eq_some_iff.mp found
  unfold readAll? at whole
  split at whole
  · rename_i ended
    split at whole
    · cases whole
      obtain ⟨_, -, formed⟩ := adds_functionItem _ _ _ ended
      exact formed
    · cases whole
  · cases whole

/-- The signature of a function that was read states the result type of the function. -/
theorem statesResult_of_functionItem? {item : List Token} {function : FunctionItem}
    (found : functionItem? item = some function) :
    StatesResult function.result function.signature :=
  (wellFormed_of_functionItem? found).states

end Grammar
end Source
end Assurance
