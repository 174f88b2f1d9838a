import Assurance.Proofs.Source.Steady
import Assurance.Source.Grammar.Pattern

namespace Assurance
namespace Source
namespace Grammar

/-!
# Paths, types and patterns before a comma

The parts of an expression are steady, if the parts inside of them are.  What
stands in groups does not matter.  Some parts take a token wherever they are
read, so that they are not looked for at the end.
-/

open Reader Tokens

-- A reader with many branches has a large instance.
set_option synthInstance.maxSize 1000000

/-- The readers of all parts that stand outside of groups in some expression are steady. -/
class SteadyReaders (read : Readers) : Prop where
  operators (left : ExpressionShape) (records : Bool) (base : Precedence) :
    Steady (read (.operators left records base))
  operandRest (left : ExpressionShape) (records : Bool) (base : Precedence) :
    Steady (read (.operandRest left records base))
  type (sums : Bool) : Steady (read (.type sums))
  pattern : Steady (read .pattern)
  alternatives : Steady (read .alternatives)
  expression (records : Bool) : Advancing (read (.expression records))
  unary (records : Bool) : Advancing (read (.unary records))
  operand (records : Bool) (base : Precedence) : Advancing (read (.operand records base))
  bound (captures constants : Bool) : Advancing (read (.bound captures constants))

variable {read : Readers} [readers : SteadyReaders read] {records captures constants sums : Bool}
  {left : ExpressionShape} {base : Precedence}

instance : Steady (read (.operators left records base)) := readers.operators _ _ _
instance : Steady (read (.operandRest left records base)) := readers.operandRest _ _ _
instance : Steady (read (.type sums)) := readers.type _
instance : Steady (read .pattern) := readers.pattern
instance : Steady (read .alternatives) := readers.alternatives
instance : Advancing (read (.expression records)) := readers.expression _
instance : Advancing (read (.unary records)) := readers.unary _
instance : Advancing (read (.operand records base)) := readers.operand _ _
instance : Advancing (read (.bound captures constants)) := readers.bound _ _

instance : Overlooks (operatorNext "#") := overlooks_operatorNext (by decide)
instance : Overlooks (operatorNext "::") := overlooks_operatorNext (by decide)
instance : Overlooks (operatorNext ">") := overlooks_operatorNext (by decide)
instance : Overlooks (operatorNext "<") := overlooks_operatorNext (by decide)
instance : Overlooks (operatorNext "=") := overlooks_operatorNext (by decide)
instance : Overlooks (operatorNext ":") := overlooks_operatorNext (by decide)
instance : Overlooks (operatorNext "+") := overlooks_operatorNext (by decide)
instance : Overlooks (operatorNext "<=") := overlooks_operatorNext (by decide)
instance : Overlooks (operatorNext "<<=") := overlooks_operatorNext (by decide)
instance : Overlooks (operatorNext "!") := overlooks_operatorNext (by decide)
instance : Overlooks (operatorNext "!=") := overlooks_operatorNext (by decide)
instance : Overlooks (operatorNext "?") := overlooks_operatorNext (by decide)
instance : Overlooks (operatorNext "*") := overlooks_operatorNext (by decide)
instance : Overlooks (operatorNext "&") := overlooks_operatorNext (by decide)
instance : Overlooks (operatorNext "->") := overlooks_operatorNext (by decide)
instance : Overlooks (operatorNext "-") := overlooks_operatorNext (by decide)
instance : Overlooks (operatorNext "|") := overlooks_operatorNext (by decide)
instance : Overlooks (operatorNext "@") := overlooks_operatorNext (by decide)
instance : Overlooks (operatorNext ".") := overlooks_operatorNext (by decide)
instance : Overlooks (operatorNext "..") := overlooks_operatorNext (by decide)
instance : Overlooks (operatorNext "...") := overlooks_operatorNext (by decide)
instance : Overlooks (operatorNext "..=") := overlooks_operatorNext (by decide)
instance : Overlooks (operatorNext ";") := overlooks_operatorNext (by decide)
instance : Overlooks (operatorNext "=>") := overlooks_operatorNext (by decide)
instance : Overlooks (operatorNext "||") := overlooks_operatorNext (by decide)
instance : Overlooks (operatorNext "|=") := overlooks_operatorNext (by decide)
instance : Overlooks (operatorNext "/") := overlooks_operatorNext (by decide)
instance : Overlooks (operatorNext "%") := overlooks_operatorNext (by decide)
instance : Overlooks (operatorNext "^") := overlooks_operatorNext (by decide)
instance : Overlooks (operatorNext "-=") := overlooks_operatorNext (by decide)
instance : Overlooks (operatorNext "*=") := overlooks_operatorNext (by decide)
instance : Overlooks (operatorNext "&=") := overlooks_operatorNext (by decide)

instance : Advancing (outerAttribute read) := by
  unfold outerAttribute
  infer_instance

instance : Steady (outerAttributes read) := by
  unfold outerAttributes
  infer_instance

instance : Advancing (block read) := by
  unfold block
  infer_instance

instance : Advancing (attributedBlock read) := by
  unfold attributedBlock
  infer_instance

instance {entry : Reader Bool} [Steady entry] : Steady (entries entry) := by
  unfold entries
  infer_instance

instance {entry : Reader Bool} [Steady entry] : Steady (angled entry) := by
  unfold angled
  infer_instance

instance : Steady (constantArgument read) := by
  unfold constantArgument
  infer_instance

instance : Steady (resultType read sums) := by
  unfold resultType
  infer_instance

instance : Steady (parenthesisedArguments read) := by
  unfold parenthesisedArguments
  infer_instance

instance : Overlooks parenthesisedNext :=
  inferInstanceAs (Overlooks fun _ => _ || _)

instance : Steady (segmentArgument read) := by
  have bounded : Steady (joined (fun tokens => operatorNext "," tokens || operatorNext ">" tokens)
      (discard (read (.bound false true))) "+") := steady_joined
  unfold segmentArgument
  dsimp only
  infer_instance

instance : Steady (segmentArguments read) := by
  unfold segmentArguments
  infer_instance

instance (inExpression : Bool) : Overlooks (segmentArgumentsNext inExpression) :=
  inferInstanceAs (Overlooks fun _ => _ || _)

instance (inExpression : Bool) : Advancing (segment read inExpression) := by
  unfold segment
  dsimp only
  infer_instance

instance (inExpression : Bool) (shape : PathShape) :
    Steady (moreSegments read inExpression shape) := by
  unfold moreSegments
  infer_instance

instance (inExpression : Bool) : Advancing (path read inExpression) := by
  unfold path
  infer_instance

instance (inExpression : Bool) : Advancing (qualifiedPath read inExpression) := by
  unfold qualifiedPath
  dsimp only
  infer_instance

instance (qualified : Bool) (shape : PathShape) : Overlooks (macroCallNext qualified shape) :=
  inferInstanceAs (Overlooks fun _ => _ && _)

instance : Steady macroCall := by
  unfold macroCall
  infer_instance

/-! ## Bounds and types -/

instance : Steady (boundLifetimes read) := by
  unfold boundLifetimes
  infer_instance

instance : Steady (boundLifetimes? read) := by
  unfold boundLifetimes?
  infer_instance

instance : Steady (constantMark constants) := by
  unfold constantMark
  dsimp only
  infer_instance

instance : Advancing (capabilityBound read constants) := by
  unfold capabilityBound
  dsimp only
  infer_instance

instance : Advancing capturedArguments := by
  unfold capturedArguments
  infer_instance

instance : Advancing (bound read captures constants) := by
  unfold bound
  dsimp only
  infer_instance

instance : Overlooks (boundNext constants) :=
  inferInstanceAs (Overlooks fun _ => _ || _)

instance (sums captures constants : Bool) : Steady (bounds read sums captures constants) := by
  unfold bounds
  infer_instance

instance : Steady convention := by
  unfold convention
  infer_instance

instance : Steady (moreBounds read) := by
  unfold moreBounds
  infer_instance

instance : Steady (parenthesisedType read sums) := by
  unfold parenthesisedType
  refine .bind fun found => ?_
  cases found <;> infer_instance

instance : Steady (functionType read) := by
  unfold functionType
  infer_instance

instance (quantified : Bool) : Steady (pathType read sums quantified) := by
  unfold pathType
  dsimp only
  infer_instance

instance : Overlooks groupedPathNext :=
  inferInstanceAs (Overlooks fun _ => _ && _)

instance (mayFollow : Bool) : Overlooks (groupedArgumentsNext mayFollow) :=
  inferInstanceAs (Overlooks fun _ => _ || _)

instance (mayHaveArguments : Bool) : Steady (groupedType read mayHaveArguments) := by
  unfold groupedType
  refine .bind fun ⟨shape, written⟩ => ?_
  dsimp only
  cases shape <;> infer_instance

instance : Overlooks pathNext :=
  inferInstanceAs (Overlooks fun _ => _ || _)



instance : Steady (type read sums) := by
  unfold type
  dsimp only
  infer_instance

/-! ## Patterns -/

instance : Steady patternPoints := by
  unfold patternPoints
  infer_instance

instance : OverlooksBehind rangeStops :=
  inferInstanceAs (OverlooksBehind fun _ => _ || _)

instance : SeesComma rangeStops :=
  inferInstanceAs (SeesComma fun _ => _ || _)

instance : Steady (rangeBound? read) := by
  unfold rangeBound?
  have bound : Advancing (do
      if ← sees literalNext then literal
      else if ← sees pathNext then discard (qualifiedPath read true)
      else
        word "const"
        attributedBlock read
      return true) := by
    dsimp only
    infer_instance
  exact steady_unless

instance (started : Bool) : Steady (rangeEnd read started) := by
  unfold rangeEnd
  dsimp only
  infer_instance

instance : Steady fieldNumber := by
  unfold fieldNumber
  refine .bind fun ⟨token, taken⟩ => ?_
  cases token with
  | literal text =>
      dsimp only
      cases Literal.fieldNumber? text <;> infer_instance
  | _ => infer_instance

instance : Steady (fieldPatterns read) := by
  unfold fieldPatterns
  infer_instance

instance : Steady (pathPattern read) := by
  unfold pathPattern
  infer_instance

instance : Steady (bindingPattern read) := by
  unfold bindingPattern
  infer_instance

instance : Overlooks pathPatternNext :=
  inferInstanceAs (Overlooks fun _ => _ || _)

instance : Steady (pattern read) := by
  unfold pattern
  dsimp only
  infer_instance

instance : Steady (alternatives read) := by
  unfold alternatives
  dsimp only
  infer_instance

end Grammar
end Source
end Assurance
