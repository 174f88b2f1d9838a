import Assurance.Maintenance.Run
import Mathlib

namespace Assurance
namespace Maintenance

/-!
# What the marker check counts

The check wants to know how many marked lines the sources hold, and counts the
lines of a list that has an entry for each of them.  An entry is never empty, so
no marked line is missed.  It is one line, unless the name of its file goes over
several lines: then it counts once for each of them.  So the count is right for
names without line breaks, and for others it may be too large.

Main statements: `length_markedBelow_le` and `countMarkers_eq_length`.
-/

theorem splitLines_break (chars : List Char) :
    splitLines ('\n' :: chars) = [] :: splitLines chars := by
  rw [splitLines, if_pos rfl]

/-- Any other character stands at the start of the first line. -/
theorem exists_splitLines_cons {char : Char} (solid : char ≠ '\n') (chars : List Char) :
    ∃ line lines, splitLines chars = line :: lines ∧
      splitLines (char :: chars) = (char :: line) :: lines := by
  have nonempty : ∃ line lines, splitLines chars = line :: lines := by
    unfold splitLines
    split
    · exact ⟨_, _, rfl⟩
    · split
      · exact ⟨_, _, rfl⟩
      · split <;> exact ⟨_, _, rfl⟩
  rcases nonempty with ⟨line, lines, split⟩
  exact ⟨line, lines, split, by rw [splitLines, if_neg solid, split]⟩

theorem splitLines_append (first rest : List Char) :
    splitLines (first ++ '\n' :: rest) = splitLines first ++ splitLines rest := by
  induction first with
  | nil => exact splitLines_break rest
  | cons char chars inductionHypothesis =>
      by_cases breaks : char = '\n'
      · rw [breaks, List.cons_append, splitLines_break, splitLines_break, inductionHypothesis]
        rfl
      · rcases exists_splitLines_cons breaks chars with ⟨line, lines, split, joined⟩
        rcases exists_splitLines_cons breaks (chars ++ '\n' :: rest) with
          ⟨longLine, longLines, longSplit, longJoined⟩
        rw [inductionHypothesis, split] at longSplit
        cases longSplit
        rw [List.cons_append, longJoined, joined]
        rfl

theorem splitLines_of_not_mem {line : List Char} (unbroken : '\n' ∉ line) :
    splitLines line = [line] := by
  induction line with
  | nil => rfl
  | cons char chars inductionHypothesis =>
      have different : char ≠ '\n' := (List.ne_of_not_mem_cons unbroken).symm
      rcases exists_splitLines_cons different chars with ⟨first, lines, split, joined⟩
      rw [inductionHypothesis (List.not_mem_of_not_mem_cons unbroken)] at split
      cases split
      exact joined

/-- Lines hold no line breaks. -/
theorem not_mem_of_mem_splitLines {text line : List Char} (member : line ∈ splitLines text) :
    '\n' ∉ line := by
  induction text generalizing line with
  | nil =>
      rw [splitLines, List.mem_singleton] at member
      rw [member]
      exact List.not_mem_nil
  | cons char chars inductionHypothesis =>
      by_cases breaks : char = '\n'
      · rw [breaks, splitLines_break] at member
        rcases List.mem_cons.mp member with rfl | member
        · exact List.not_mem_nil
        · exact inductionHypothesis member
      · rcases exists_splitLines_cons breaks chars with ⟨first, lines, split, joined⟩
        rw [split] at inductionHypothesis
        rw [joined] at member
        rcases List.mem_cons.mp member with rfl | member
        · exact List.not_mem_cons_of_ne_of_not_mem (Ne.symm breaks)
            (inductionHypothesis List.mem_cons_self)
        · exact inductionHypothesis (List.mem_cons_of_mem first member)

/-- Every other character of a text is in one of its lines. -/
theorem exists_mem_splitLines {text : List Char} {char : Char} (member : char ∈ text)
    (solid : char ≠ '\n') : ∃ line ∈ splitLines text, char ∈ line := by
  induction text with
  | nil => cases member
  | cons first chars inductionHypothesis =>
      by_cases breaks : first = '\n'
      · rw [breaks] at member
        rcases inductionHypothesis (List.mem_of_ne_of_mem solid member) with ⟨line, among, inside⟩
        rw [breaks, splitLines_break]
        exact ⟨line, List.mem_cons_of_mem [] among, inside⟩
      · rcases exists_splitLines_cons breaks chars with ⟨start, lines, split, joined⟩
        rw [joined]
        rcases List.mem_cons.mp member with rfl | later
        · exact ⟨char :: start, List.mem_cons_self, List.mem_cons_self⟩
        · rcases inductionHypothesis later with ⟨line, among, inside⟩
          rw [split] at among
          rcases List.mem_cons.mp among with rfl | among
          · exact ⟨first :: line, List.mem_cons_self, List.mem_cons_of_mem first inside⟩
          · exact ⟨line, List.mem_cons_of_mem _ among, inside⟩

/-- The number of lines that are not empty. -/
def fullLines (text : List Char) : Nat :=
  ((splitLines text).filter fun line => !line.isEmpty).length

theorem fullLines_append (first rest : List Char) :
    fullLines (first ++ '\n' :: rest) = fullLines first + fullLines rest := by
  rw [fullLines, splitLines_append, List.filter_append, List.length_append]
  rfl

theorem fullLines_flatMap {α : Type} (entry : α → List Char) (items : List α) :
    fullLines (items.flatMap fun item => entry item ++ ['\n']) =
      (items.map fun item => fullLines (entry item)).sum := by
  induction items with
  | nil => rfl
  | cons item items inductionHypothesis =>
      rw [List.flatMap_cons, List.append_assoc, List.singleton_append, fullLines_append,
        inductionHypothesis, List.map_cons, List.sum_cons]

theorem fullLines_pos {text : List Char} {char : Char} (member : char ∈ text)
    (solid : char ≠ '\n') : 1 ≤ fullLines text := by
  rcases exists_mem_splitLines member solid with ⟨line, among, inside⟩
  have kept : line ∈ (splitLines text).filter fun line => !line.isEmpty := by
    refine List.mem_filter.mpr ⟨among, ?_⟩
    rw [List.isEmpty_eq_false_iff_exists_mem.mpr ⟨char, inside⟩]
    rfl
  exact List.length_pos_of_mem kept

theorem fullLines_of_not_mem {line : List Char} (nonempty : line ≠ []) (unbroken : '\n' ∉ line) :
    fullLines line = 1 := by
  have full : line.isEmpty = false := List.isEmpty_eq_false_iff.mpr nonempty
  simp [fullLines, splitLines_of_not_mem unbroken, full]

theorem occursIn_iff {part text : List Char} : occursIn part text = true ↔ part <:+: text := by
  induction text with
  | nil => rw [occursIn, List.isEmpty_iff, List.infix_nil]
  | cons char chars inductionHypothesis =>
      rw [occursIn, Bool.or_eq_true, List.isPrefixOf_iff_prefix, inductionHypothesis,
        List.infix_cons_iff]

/-- The name that a place is listed under. -/
def listedName (place : Place) : List Char := ("/".intercalate place).toList

/-- The marked lines of the sources below a directory, each with the place of its file. -/
def markedBelow (system : FileSystem) (directory : Place) : List (Place × List Char) :=
  (sourcesBelow system directory).flatMap fun (place, content) =>
    if isText content.toList then (markedLines content.toList).map fun line => (place, line) else []

theorem mem_sourcesBelow_iff {system : FileSystem} {directory place : Place} {content : String} :
    (place, content) ∈ sourcesBelow system directory ↔
      (directory ++ place, content) ∈ system.files ∧
        sourceEnding <:+ ((directory ++ place).getLastD "").toList := by
  rw [sourcesBelow, List.mem_filterMap]
  constructor
  · rintro ⟨⟨whole, given⟩, file, taken⟩
    simp only [Option.ite_none_right_eq_some, Bool.and_eq_true, List.isPrefixOf_iff_prefix,
      List.isSuffixOf_iff_suffix, Option.some.injEq] at taken
    rcases taken with ⟨⟨⟨rest, rfl⟩, ending⟩, same⟩
    rw [List.drop_left] at same
    cases same
    exact ⟨file, ending⟩
  · rintro ⟨file, ending⟩
    refine ⟨(directory ++ place, content), file, ?_⟩
    simp only [Option.ite_none_right_eq_some, Bool.and_eq_true, List.isPrefixOf_iff_prefix,
      List.isSuffixOf_iff_suffix, List.drop_left, and_true]
    exact ⟨List.prefix_append directory place, ending⟩

/-- A marked line is a line with the marker, in a file below the directory that is named as a source
and holds text. -/
theorem mem_markedBelow_iff {system : FileSystem} {directory place : Place} {line : List Char} :
    (place, line) ∈ markedBelow system directory ↔
      ∃ content, (directory ++ place, content) ∈ system.files ∧
        sourceEnding <:+ ((directory ++ place).getLastD "").toList ∧
        isText content.toList = true ∧ line ∈ splitLines content.toList ∧ marker <:+: line := by
  simp only [markedBelow, List.mem_flatMap, Prod.exists]
  constructor
  · rintro ⟨found, content, source, marked⟩
    by_cases text : isText content.toList = true
    · rw [if_pos text] at marked
      rcases List.mem_map.mp marked with ⟨inside, among, same⟩
      cases same
      rcases List.mem_filter.mp among with ⟨among, marks⟩
      rcases mem_sourcesBelow_iff.mp source with ⟨file, ending⟩
      exact ⟨content, file, ending, text, among, occursIn_iff.mp marks⟩
    · rw [if_neg text] at marked
      cases marked
  · rintro ⟨content, file, ending, text, among, marks⟩
    refine ⟨place, content, mem_sourcesBelow_iff.mpr ⟨file, ending⟩, ?_⟩
    rw [if_pos text]
    exact List.mem_map_of_mem (List.mem_filter.mpr ⟨among, occursIn_iff.mpr marks⟩)

theorem unbroken_of_mem_markedBelow {system : FileSystem} {directory place : Place}
    {line : List Char} (found : (place, line) ∈ markedBelow system directory) : '\n' ∉ line := by
  rcases mem_markedBelow_iff.mp found with ⟨content, -, -, -, among, -⟩
  exact not_mem_of_mem_splitLines among

/-! ## The count -/

theorem fullLines_listed_pos (name line : List Char) : 1 ≤ fullLines (listed name line) := by
  have colon : ':' ∈ listed name line := List.mem_append_right name List.mem_cons_self
  exact fullLines_pos colon (by decide)

theorem fullLines_listed {name line : List Char} (unbrokenName : '\n' ∉ name)
    (unbrokenLine : '\n' ∉ line) : fullLines (listed name line) = 1 := by
  have nonempty : listed name line ≠ [] :=
    List.append_ne_nil_of_right_ne_nil name (List.cons_ne_nil ':' line)
  refine fullLines_of_not_mem nonempty ?_
  intro broken
  rcases List.mem_append.mp broken with inName | inEntry
  · exact unbrokenName inName
  · exact unbrokenLine (List.mem_of_ne_of_mem (by decide) inEntry)

/-- The list has an entry for each marked line. -/
theorem countMarkers_eq_sum (system : FileSystem) (directory : Place) :
    countMarkers system directory =
      ((markedBelow system directory).map fun found =>
        fullLines (listed (listedName found.1) found.2)).sum := by
  have entries : ((sourcesBelow system directory).flatMap fun (place, content) =>
      listing ("/".intercalate place).toList content.toList) =
        (markedBelow system directory).flatMap fun found =>
          listed (listedName found.1) found.2 ++ ['\n'] := by
    rw [markedBelow, List.flatMap_assoc]
    refine congrArg (sourcesBelow system directory).flatMap (funext fun source => ?_)
    simp only [listing]
    split
    · rw [List.flatMap_map]
      rfl
    · rfl
  rw [← fullLines_flatMap, ← entries]
  rfl

/-- No marked line is missed. -/
theorem length_markedBelow_le (system : FileSystem) (directory : Place) :
    (markedBelow system directory).length ≤ countMarkers system directory := by
  have counted : ∀ found ∈ markedBelow system directory,
      1 ≤ fullLines (listed (listedName found.1) found.2) :=
    fun found _ => fullLines_listed_pos (listedName found.1) found.2
  rw [countMarkers_eq_sum]
  have summed := List.length_le_sum_of_one_le _ (List.forall_mem_map.mpr counted)
  rw [List.length_map] at summed
  exact summed

/-- The count is right if no name of a file goes over several lines. -/
theorem countMarkers_eq_length {system : FileSystem} {directory : Place}
    (names : ∀ found ∈ markedBelow system directory, '\n' ∉ listedName found.1) :
    countMarkers system directory = (markedBelow system directory).length := by
  rw [countMarkers_eq_sum]
  have counted : ∀ found ∈ markedBelow system directory,
      fullLines (listed (listedName found.1) found.2) = 1 :=
    fun found member => fullLines_listed (names found member) (unbroken_of_mem_markedBelow member)
  rw [List.map_congr_left counted, List.map_const', List.sum_replicate_nat, Nat.mul_one]

end Maintenance
end Assurance
