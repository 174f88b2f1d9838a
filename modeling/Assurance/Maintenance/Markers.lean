import Assurance.Maintenance.FileSystem

namespace Assurance
namespace Maintenance

/-!
# Invariant markers

Source files mark the invariants they rely on.  The marked lines below a
directory are listed with their files, and the lines of that list are counted.
A file that is not text adds nothing to it: that such a file matches is told
apart from the list.
-/

/-- What a marked line holds. -/
def marker : List Char := "INVARIANT:".toList

def sourceEnding : List Char := ".rs".toList

/-- The fewest markers that the sources should hold. -/
def requiredMarkers : Nat := 5

/-- Whether a text occurs in another one. -/
def occursIn (part : List Char) : List Char → Bool
  | [] => part.isEmpty
  | char :: chars => part.isPrefixOf (char :: chars) || occursIn part chars

/-- The lines of a text; the last one may be empty. -/
def splitLines (text : List Char) : List (List Char) :=
  match text with
  | [] => [[]]
  | char :: chars =>
      if char = '\n' then [] :: splitLines chars
      else match splitLines chars with
        | [] => [[char]]
        | line :: lines => (char :: line) :: lines

def markedLines (text : List Char) : List (List Char) :=
  (splitLines text).filter (occursIn marker)

/-- Whether the content of a file is text. -/
def isText (content : List Char) : Bool := !content.contains '\x00'

/-- A marked line as it is listed, with the name of its file in front. -/
def listed (name : List Char) (line : List Char) : List Char := name ++ ':' :: line

/-- What is listed for a file: its marked lines, if it is text. -/
def listing (name : List Char) (content : List Char) : List Char :=
  if isText content then (markedLines content).flatMap fun line => listed name line ++ ['\n']
  else []

/-- The source files below a directory, by their names from there on. -/
def sourcesBelow (system : FileSystem) (directory : Place) : List (Place × String) :=
  system.files.filterMap fun (place, content) =>
    if directory.isPrefixOf place &&
        sourceEnding.isSuffixOf (place.getLastD "").toList then
      some (place.drop directory.length, content)
    else none

/-- The number of lines listed for the markers below a directory. -/
def countMarkers (system : FileSystem) (directory : Place) : Nat :=
  let report := (sourcesBelow system directory).flatMap fun (place, content) =>
    listing ("/".intercalate place).toList content.toList
  ((splitLines report).filter fun line => !line.isEmpty).length

end Maintenance
end Assurance
