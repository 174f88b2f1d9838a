import Assurance.Text.Utf8
import Assurance.Violation.Diagnostic

namespace Assurance

/-!
# Colour policy

Three sources decide whether diagnostics are coloured, the first that decides
wins: an explicit choice, the request for no colour, and whether the output is
a terminal.  A choice is a word in any letter case; any other value, and one
that is not text, leaves the decision to the next source.
-/

/-- The sources of the colour policy. -/
structure ColourSources where
  /-- The explicit choice, if one is set. -/
  choice : Option ByteString
  /-- The request for no colour, if one is set. -/
  noColour : Option ByteString
  /-- Whether diagnostics go to a terminal. -/
  terminal : Bool
deriving DecidableEq, Repr

namespace ColourSources

/-- The lowercase form of a character.  Beside the ASCII letters this covers the two letters whose
lowercase forms hold an ASCII letter; every other one has a form outside ASCII, as it has itself. -/
def lowercase (char : Char) : List Char :=
  if char = '\u212a' then ['k']
  else if char = '\u0130' then ['i', '\u0307']
  else [char.toLower]

def onWords : List String := ["always", "ansi", "1"]

def offWords : List String := ["never", "plain", "0"]

/-- Whether a value is text that spells one of some words, in any letter case. -/
def spells (words : List String) (value : ByteString) : Bool :=
  match value.decode? with
  | none => false
  | some text => words.contains (String.ofList (text.toList.flatMap lowercase))

/-- The mode that the explicit choice asks for, if it decides. -/
def chosen? (sources : ColourSources) : Option ColourMode :=
  match sources.choice with
  | none => none
  | some value =>
      if spells onWords value then some .ansi
      else if spells offWords value then some .plain
      else none

/-- Whether the request for no colour is made. -/
def refusesColour (sources : ColourSources) : Bool :=
  match sources.noColour with
  | none => false
  | some value => !value.isEmpty

/-- The mode that the sources decide on. -/
def detect (sources : ColourSources) : ColourMode :=
  match sources.chosen? with
  | some mode => mode
  | none =>
      if sources.refusesColour then .plain
      else if sources.terminal then .ansi else .plain

end ColourSources

end Assurance
