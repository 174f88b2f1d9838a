import Assurance.Violation.Info

namespace Assurance

/-!
# Diagnostics

One line of text per violation.  The plain line and the coloured line hold the
same parts in the same order; the coloured one puts escape sequences around
them.  The raised record carries the plain line as its message.
-/

/-- How diagnostics are written. -/
inductive ColourMode where
  | plain | ansi
deriving DecidableEq, Repr

/-- The escape sequences of coloured diagnostics. -/
inductive Style where
  | reset | bold | dim | red | yellow
deriving DecidableEq, Repr

def Style.code : Style → String
  | reset => "0"
  | bold => "1"
  | dim => "2"
  | red => "31"
  | yellow => "33"

/-- The escape sequence that switches a style on. -/
def Style.sequence (style : Style) : String :=
  "\x1b[" ++ style.code ++ "m"

/-- A part of a line: text, or a change of style. -/
inductive Piece where
  | text (text : String)
  | style (style : Style)
deriving DecidableEq, Repr

namespace Diagnostic

/-- What every diagnostic starts with. -/
def heading : String := "contract violation"

/-- The parts of the line of a violation. -/
def pieces (info : Info) : List Piece :=
  let accent := if info.unhandled then Style.yellow else Style.red
  [.style .bold, .style accent, .text heading, .style .reset, .text ": ",
   .style .bold, .text info.text, .style .reset, .text " ",
   .style .dim, .text ("[" ++ info.location.place ++ "]"), .text info.location.functionPart,
   .style .reset]

/-- A part as it is written: without colours a style leaves nothing behind. -/
def Piece.write (mode : ColourMode) : Piece → String
  | .text text => text
  | .style style => match mode with
    | .plain => ""
    | .ansi => style.sequence

def render (mode : ColourMode) (info : Info) : String :=
  String.join ((pieces info).map (Piece.write mode))

/-- The plain line as a whole. -/
theorem render_plain (info : Info) :
    render .plain info = heading ++ ": " ++ info.text ++ " [" ++ info.location.file ++ ":" ++
      Nat.repr info.location.line ++ "]" ++ info.location.functionPart := by
  rw [← String.toList_inj]
  simp [render, pieces, Piece.write, Location.place]

/-- The coloured line as a whole. -/
theorem render_ansi (info : Info) :
    let bold := Style.bold.sequence
    let accent := (if info.unhandled then Style.yellow else Style.red).sequence
    let reset := Style.reset.sequence
    render .ansi info = bold ++ accent ++ heading ++ reset ++ ": " ++ bold ++ info.text ++ reset ++
      " " ++ Style.dim.sequence ++ "[" ++ info.location.file ++ ":" ++
      Nat.repr info.location.line ++ "]" ++ info.location.functionPart ++ reset := by
  simp [render, pieces, Piece.write, Location.place, String.append_assoc]

end Diagnostic

/-- The record that is raised when the program may not go on. -/
structure Violation where
  message : String
  comment : String
  file : String
  line : Nat
deriving DecidableEq, Repr

namespace Violation

/-- The record of a violation with a given message. -/
def ofInfo (info : Info) (message : String) : Violation :=
  ⟨message, info.text, info.location.file, info.location.line⟩

/-- The text of a record is its message. -/
def text (violation : Violation) : String := violation.message

end Violation

end Assurance
