import Assurance.Integer.Decimal
import Assurance.Proofs.Contract.Escalation

namespace Assurance

/-!
# Colour is decoration

A control sequence is an escape character and an opening bracket, then characters
that are not final, then a final one.  `Escape.strip` deletes the control
sequences of a text and keeps everything else.

The coloured line of a violation without its control sequences is its plain line,
if the names that it shows hold no escape character of their own.  So whatever
the colour mode, the line that is written when a program ends and the message of
the record that is raised are the same text.

Main statement: `Diagnostic.reports_carry_one_text`.
-/

/-- How far a control sequence has been read. -/
inductive Escape where
  | outside
  /-- An escape character was read. -/
  | opened
  /-- The bracket was read too, and no final character yet. -/
  | inside
deriving DecidableEq, Repr

namespace Escape

/-- Whether a character ends a control sequence. -/
def isFinal (char : Char) : Bool := '@' ≤ char && char ≤ '~'

/-- The text without its control sequences.  An escape character that opens none is kept. -/
def stripFrom : Escape → List Char → List Char
  | outside, [] | inside, [] => []
  | opened, [] => ['\x1b']
  | outside, char :: rest =>
      if char = '\x1b' then stripFrom opened rest else char :: stripFrom outside rest
  | opened, char :: rest =>
      if char = '[' then stripFrom inside rest
      else if char = '\x1b' then '\x1b' :: stripFrom opened rest
      else '\x1b' :: char :: stripFrom outside rest
  | inside, char :: rest =>
      if isFinal char then stripFrom outside rest else stripFrom inside rest

def strip (text : String) : String :=
  String.ofList (stripFrom outside text.toList)

theorem stripFrom_append {front : List Char} (clean : '\x1b' ∉ front) (rest : List Char) :
    stripFrom outside (front ++ rest) = front ++ stripFrom outside rest := by
  induction front with
  | nil => rfl
  | cons char front inductionHypothesis =>
      rw [List.mem_cons, not_or] at clean
      rw [List.cons_append, stripFrom, if_neg (Ne.symm clean.1), inductionHypothesis clean.2,
        List.cons_append]

theorem stripFrom_sequence_append (style : Style) (rest : List Char) :
    stripFrom outside (style.sequence.toList ++ rest) = stripFrom outside rest := by
  cases style <;> rfl

end Escape

namespace Diagnostic

open Escape

/-- A part whose text holds no escape character. -/
def Clean : Piece → Prop
  | .text text => '\x1b' ∉ text.toList
  | .style _ => True

/-- Without its control sequences a line holds the texts of its parts, in either mode. -/
theorem stripFrom_pieces (mode : ColourMode) {pieces : List Piece}
    (clean : ∀ piece ∈ pieces, Clean piece) :
    stripFrom outside (pieces.flatMap fun piece => (Piece.write mode piece).toList) =
      pieces.flatMap fun piece => (Piece.write .plain piece).toList := by
  induction pieces with
  | nil => rfl
  | cons piece pieces inductionHypothesis =>
      rcases List.forall_mem_cons.mp clean with ⟨first, others⟩
      rw [List.flatMap_cons, List.flatMap_cons, ← inductionHypothesis others]
      cases piece with
      | text text => exact stripFrom_append first _
      | style style =>
          cases mode with
          | plain => rfl
          | ansi => exact stripFrom_sequence_append style _

theorem toList_render (mode : ColourMode) (info : Info) :
    (render mode info).toList = (pieces info).flatMap fun piece => (Piece.write mode piece).toList := by
  rw [render, String.toList_join, List.flatMap_map]

theorem clean_text (info : Info) : '\x1b' ∉ info.text.toList := by
  have tier : '\x1b' ∉ info.tier.name.toList := by cases info.tier <;> decide
  have family : '\x1b' ∉ info.family.name.toList := by cases info.family <;> decide
  simp only [Info.text, Info.comment, String.toList_append, List.mem_append, not_or]
  exact ⟨by cases info.unhandled <;> decide, ⟨tier, by decide⟩, family⟩

theorem clean_pieces {info : Info} (file : '\x1b' ∉ info.location.file.toList)
    (function : '\x1b' ∉ info.location.function.toList) :
    ∀ piece ∈ pieces info, Clean piece := by
  have place : '\x1b' ∉ ("[" ++ info.location.place ++ "]").toList := by
    simp only [Location.place, String.toList_append, Nat.toList_repr, List.mem_append, not_or]
    exact ⟨⟨by decide, ⟨file, by decide⟩, Decimal.not_mem_digits rfl _⟩, by decide⟩
  have shownFunction : '\x1b' ∉ info.location.functionPart.toList := by
    unfold Location.functionPart
    split
    · rw [String.toList_append, List.mem_append, not_or]
      exact ⟨by decide, function⟩
    · decide
  have fixed : '\x1b' ∉ heading.toList ∧ '\x1b' ∉ ": ".toList ∧ '\x1b' ∉ " ".toList := by decide
  simp only [pieces, List.forall_mem_cons, Clean, List.not_mem_nil, false_implies, implies_true,
    true_and, and_true]
  exact ⟨fixed.1, fixed.2.1, clean_text info, fixed.2.2, place, shownFunction⟩

theorem strip_render (mode : ColourMode) {info : Info}
    (file : '\x1b' ∉ info.location.file.toList)
    (function : '\x1b' ∉ info.location.function.toList) :
    strip (render mode info) = render .plain info := by
  rw [← String.toList_inj, strip, String.toList_ofList, toList_render, toList_render]
  exact stripFrom_pieces mode (clean_pieces file function)

/-- One line was written before the end, and the end is the one of a configuration: the record that
is raised tells the same as the line without its control sequences. -/
structure Concludes {η α : Type} (config : Config) (info : Info) (machine : Machine η)
    (ended : Outcome α × Machine η) : Prop where
  line : ended.2.lines = machine.lines ++ [render machine.colourMode info]
  raised : config.compliant = true → ended.1 = .raised (.violation {
    message := strip (render machine.colourMode info)
    comment := info.text
    file := info.location.file
    line := info.location.line })
  aborted : config.compliant = false → ended.1 = .aborted

section Reports

variable {η α : Type} {info : Info}

theorem concludes_ending (file : '\x1b' ∉ info.location.file.toList)
    (function : '\x1b' ∉ info.location.function.toList) (config : Config) (machine : Machine η) :
    Concludes config info machine
      ((config.ending info, machine.reporting info) : Outcome α × Machine η) where
  line := rfl
  raised := by
    intro compliant
    rw [strip_render _ file function]
    exact if_pos compliant
  aborted := by
    intro incompliant
    exact if_neg (Bool.eq_false_iff.mp incompliant)

/-- Colour only decorates: without control sequences every line of a violation is its plain line.
So whenever a program is ended over a violation, by whatever configuration and in whatever colour
mode, the written line and the message of the raised record are one text. -/
theorem reports_carry_one_text (info : Info) (file : '\x1b' ∉ info.location.file.toList)
    (function : '\x1b' ∉ info.location.function.toList) :
    (∀ mode, strip (render mode info) = render .plain info) ∧
      (∀ (config : Config) (machine : Machine η), Concludes config info machine
        ((Action.fatal config info : Action (Machine η) α) machine)) ∧
      ∀ (build : Config) (machine : Machine η), build.continues = false →
        Concludes build info machine (Action.standardHandler build info machine) := by
  refine ⟨fun mode => strip_render mode file function, ?_, ?_⟩
  · intro config machine
    rw [Action.fatal_apply]
    exact concludes_ending file function config machine
  · intro build machine ends
    rw [Action.standardHandler_apply, ends]
    exact concludes_ending file function build machine

end Reports

/-- A tagged record raised in colour carries the plain line, tag included. -/
theorem reports_carry_one_text_tagged :
    let info : Info := ⟨.audit, .postcondition, ⟨"a.rs", "m[1;2m", 7, 1⟩, true⟩
    let machine : Machine Unit := Machine.initial ⟨none, none, true⟩
    let ended : Outcome Unit × Machine Unit := Action.fatal ⟨.audit, false, true⟩ info machine
    ('\x1b' ∉ info.location.file.toList ∧ '\x1b' ∉ info.location.function.toList) ∧
      machine.colourMode = .ansi ∧
      ended.1 = .raised (.violation ⟨render .plain info, "[unhandled] audit postcondition", "a.rs", 7⟩) ∧
      ended.2.lines = [render .ansi info] := by
  intro info machine ended
  have file : '\x1b' ∉ info.location.file.toList := by decide
  have function : '\x1b' ∉ info.location.function.toList := by decide
  rcases @reports_carry_one_text Unit Unit info file function with ⟨strips, fatal, -⟩
  have concluded := fatal ⟨.audit, false, true⟩ machine
  refine ⟨⟨file, function⟩, rfl, ?_, concluded.line⟩
  rw [concluded.raised rfl, strips]
  rfl

end Diagnostic
end Assurance
