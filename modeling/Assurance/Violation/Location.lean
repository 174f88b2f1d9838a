namespace Assurance

/-!
# Source locations

A location names a file, a line, a column and the enclosing function.  The
function is known only if its name is not empty and not the placeholder.

A function is captured as the path of a marker item declared inside it, so the
path ends in the marker; closures on the way add segments of their own.
`trimPath` cuts the marker off once, and then every closure segment at the end.
-/

/-- Where a check stands. -/
structure Location where
  file : String
  function : String
  line : Nat
  column : Nat
deriving DecidableEq, Repr

namespace Location

/-- The name that stands for an unknown function. -/
def unknownFunction : String := "<unknown>"

/-- Whether the enclosing function is known. -/
def hasFunction (location : Location) : Bool :=
  !location.function.isEmpty && location.function != unknownFunction

/-- The enclosing function as it is shown: nothing if it is not known. -/
def functionPart (location : Location) : String :=
  if location.hasFunction then " in " ++ location.function else ""

/-- File and line, as they are shown. -/
def place (location : Location) : String :=
  location.file ++ ":" ++ Nat.repr location.line

/-- The location as text. -/
def text (location : Location) : String :=
  location.place ++ location.functionPart

/-- The text before a suffix, if the text ends in it. -/
def withoutSuffix? (suffix text : List Char) : Option (List Char) :=
  if suffix.isSuffixOf text then some (text.take (text.length - suffix.length)) else none

theorem withoutSuffix?_append (suffix text : List Char) :
    withoutSuffix? suffix (text ++ suffix) = some text := by
  unfold withoutSuffix?
  rw [if_pos (List.isSuffixOf_iff_suffix.mpr (List.suffix_append text suffix))]
  simp

theorem append_of_withoutSuffix? {suffix text front : List Char}
    (cut : withoutSuffix? suffix text = some front) : text = front ++ suffix := by
  unfold withoutSuffix? at cut
  split at cut
  · rename_i ends
    rcases List.isSuffixOf_iff_suffix.mp ends with ⟨kept, rfl⟩
    simp at cut
    rw [cut]
  · cases cut

/-- The segment that the marker item adds to a path. -/
def markerSegment : List Char := "::__guardrail_marker".toList

/-- The segment that a closure adds to a path. -/
def closureSegment : List Char := "::\x7b\x7bclosure\x7d\x7d".toList

/-- The path without the closure segments at its end. -/
def dropClosures (path : List Char) : List Char :=
  match _cut : withoutSuffix? closureSegment path with
  | some front => dropClosures front
  | none => path
termination_by path.length
decreasing_by
  rw [append_of_withoutSuffix? _cut, List.length_append]
  exact Nat.lt_add_of_pos_right (by decide)

/-- The path of the function in which a marker item was declared. -/
def trimPath (path : List Char) : List Char :=
  dropClosures ((withoutSuffix? markerSegment path).getD path)

theorem dropClosures_append (path : List Char) :
    dropClosures (path ++ closureSegment) = dropClosures path := by
  rw [dropClosures]
  split
  · rename_i front cut
    rw [withoutSuffix?_append] at cut
    cases cut
    rfl
  · rename_i cut
    rw [withoutSuffix?_append] at cut
    cases cut

theorem dropClosures_of_none {path : List Char} (kept : withoutSuffix? closureSegment path = none) :
    dropClosures path = path := by
  rw [dropClosures]
  split
  · rename_i front cut
    rw [kept] at cut
    cases cut
  · rfl

/-- The name of the function in which a marker item with a given path was declared. -/
def enclosingFunction (path : String) : String :=
  String.ofList (trimPath path.toList)

end Location

end Assurance
