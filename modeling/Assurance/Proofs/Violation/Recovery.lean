import Assurance.Integer.Decimal
import Assurance.Violation.Diagnostic

namespace Assurance

/-!
# Plain diagnostics are read back

A plain diagnostic joins texts of any content by separators, and each separator
may occur in the texts as well.  Where a text ends can be told all the same: the
words of the comment hold no blank, the number of the line holds no colon, and
the name of the file is asked to hold no closing bracket.  The name of the
function comes last, so nothing is asked of it.

`Shown.read?` takes a line apart in this order.  It recovers exactly what the line
shows, so two lines are equal only if they show the same.

Main statement: `Diagnostic.render_plain_determines`.
-/

/-- What a diagnostic shows of a violation. -/
structure Shown where
  unhandled : Bool
  tier : Tier
  family : Family
  file : String
  line : Nat
  /-- The name of the function, unless it is not known. -/
  function : Option String
deriving DecidableEq, Repr

/-- The fields of a record that its diagnostic shows. -/
def Info.shown (info : Info) : Shown where
  unhandled := info.unhandled
  tier := info.tier
  family := info.family
  file := info.location.file
  line := info.location.line
  function :=
    if info.location.function ≠ "" ∧ info.location.function ≠ Location.unknownFunction then
      some info.location.function
    else none

namespace Shown

/-- The text after a front, if the text begins with it. -/
def withoutFront? (front text : List Char) : Option (List Char) :=
  if front.isPrefixOf text then some (text.drop front.length) else none

/-- The text before the first occurrence of a character, and the text after it. -/
def cutAt? (mark : Char) (text : List Char) : Option (List Char × List Char) :=
  match text.dropWhile (· != mark) with
  | [] => none
  | _ :: rest => some (text.takeWhile (· != mark), rest)

/-- The text before the last occurrence of a character, and the text after it. -/
def cutAtLast? (mark : Char) (text : List Char) : Option (List Char × List Char) :=
  (cutAt? mark text.reverse).map fun (after, before) => (before.reverse, after.reverse)

theorem withoutFront?_append (front rest : List Char) :
    withoutFront? front (front ++ rest) = some rest := by
  unfold withoutFront?
  rw [if_pos (List.isPrefixOf_iff_prefix.mpr (List.prefix_append front rest)), List.drop_left]

theorem cutAt?_append {mark : Char} {front : List Char} (absent : mark ∉ front)
    (rest : List Char) : cutAt? mark (front ++ mark :: rest) = some (front, rest) := by
  have before : ∀ char ∈ front, (char != mark) = true := by
    intro char among
    exact bne_iff_ne.mpr fun same => absent (same ▸ among)
  unfold cutAt?
  rw [List.dropWhile_append_of_pos before, List.dropWhile_cons_of_neg (by simp),
    List.takeWhile_append_of_pos before, List.takeWhile_cons_of_neg (by simp), List.append_nil]

theorem cutAtLast?_append {mark : Char} {rest : List Char} (absent : mark ∉ rest)
    (front : List Char) : cutAtLast? mark (front ++ mark :: rest) = some (front, rest) := by
  have turned : (front ++ mark :: rest).reverse = rest.reverse ++ mark :: front.reverse := by simp
  unfold cutAtLast?
  rw [turned, cutAt?_append (mt List.mem_reverse.mp absent), Option.map_some]
  simp only [List.reverse_reverse]

/-- Whether a text begins with the tag, and the text after it. -/
def readTag (text : List Char) : Bool × List Char :=
  match withoutFront? "[unhandled] ".toList text with
  | some rest => (true, rest)
  | none => (false, text)

/-- The function that the end of a line shows: the name after the word that introduces it, or none
if nothing is left. -/
def readFunction? (text : List Char) : Option (Option String) :=
  if text.isEmpty then some none
  else (withoutFront? " in ".toList text).map fun name => some (String.ofList name)

/-- What every diagnostic begins with. -/
def opening : List Char := Diagnostic.heading.toList ++ ": ".toList

/-- What a line shows, if it is a diagnostic. -/
def read? (line : List Char) : Option Shown := do
  let (unhandled, text) := readTag (← withoutFront? opening line)
  let (tier, text) ← cutAt? ' ' text
  let (family, text) ← cutAt? ' ' text
  let (place, text) ← cutAt? ']' (← withoutFront? "[".toList text)
  let (file, number) ← cutAtLast? ':' place
  return {
    unhandled
    tier := ← Tier.ofName? (String.ofList tier)
    family := ← Family.ofName? (String.ofList family)
    file := String.ofList file
    line := ← Decimal.readDigits? number
    function := ← readFunction? text }

/-- The end of a line: the function, if one is shown. -/
def functionText (function : Option String) : List Char :=
  match function with
  | some name => " in ".toList ++ name.toList
  | none => []

/-- The line that shows given fields. -/
def text (shown : Shown) : List Char :=
  opening ++
    ((if shown.unhandled then "[unhandled] ".toList else []) ++
      (shown.tier.name.toList ++ ' ' ::
        (shown.family.name.toList ++ ' ' ::
          ("[".toList ++ ((shown.file.toList ++ ':' :: Decimal.digits shown.line) ++ ']' ::
            functionText shown.function)))))

theorem ofName?_name (tier : Tier) : Tier.ofName? tier.name = some tier := by
  cases tier <;> decide

theorem familyOfName?_name (family : Family) : Family.ofName? family.name = some family := by
  cases family <;> decide

theorem space_not_mem_name (tier : Tier) : ' ' ∉ tier.name.toList := by
  cases tier <;> decide

theorem space_not_mem_familyName (family : Family) : ' ' ∉ family.name.toList := by
  cases family <;> decide

theorem readTag_append (unhandled : Bool) (tier : Tier) (rest : List Char) :
    readTag ((if unhandled then "[unhandled] ".toList else []) ++ (tier.name.toList ++ rest)) =
      (unhandled, tier.name.toList ++ rest) := by
  cases unhandled with
  | true =>
      unfold readTag
      rw [if_pos rfl, withoutFront?_append]
  | false =>
      -- No tier begins like the tag.
      cases tier <;> rfl

theorem readFunction?_functionText (function : Option String) :
    readFunction? (functionText function) = some function := by
  cases function with
  | none => rfl
  | some name =>
      have shown : ¬ (functionText (some name)).isEmpty = true := Bool.false_ne_true
      unfold readFunction?
      rw [if_neg shown, functionText, withoutFront?_append, Option.map_some, String.ofList_toList]

/-- Every line is read back as the fields that it shows, if the name of the file can be told from
what follows it. -/
theorem read?_text {shown : Shown} (noBracket : ']' ∉ shown.file.toList) :
    read? shown.text = some shown := by
  rcases shown with ⟨unhandled, tier, family, file, line, function⟩
  have place : ']' ∉ file.toList ++ ':' :: Decimal.digits line := by
    simp only [List.mem_append, List.mem_cons, not_or]
    exact ⟨noBracket, by decide, Decimal.not_mem_digits rfl line⟩
  have noColon : ':' ∉ Decimal.digits line := Decimal.not_mem_digits rfl line
  unfold read? text
  simp only [withoutFront?_append, Option.bind_eq_bind, Option.bind_some, readTag_append,
    cutAt?_append (space_not_mem_name tier), cutAt?_append (space_not_mem_familyName family),
    cutAt?_append place, cutAtLast?_append noColon, ofName?_name, familyOfName?_name,
    Decimal.readDigits?_digits, readFunction?_functionText, String.ofList_toList, Option.pure_def]

end Shown

namespace Diagnostic

theorem toList_functionPart (info : Info) :
    info.location.functionPart.toList = Shown.functionText info.shown.function := by
  unfold Location.functionPart Location.hasFunction Info.shown
  by_cases known : info.location.function ≠ "" ∧ info.location.function ≠ Location.unknownFunction
  · simp [known, Shown.functionText]
  · simp [known, Shown.functionText]

theorem toList_text (info : Info) :
    info.text.toList = (if info.unhandled then "[unhandled] ".toList else []) ++
      (info.tier.name.toList ++ ' ' :: info.family.name.toList) := by
  unfold Info.text Info.comment
  cases info.unhandled <;> simp only [String.toList_append, List.append_assoc] <;> rfl

theorem toList_place (location : Location) :
    location.place.toList = location.file.toList ++ ':' :: Decimal.digits location.line := by
  unfold Location.place
  simp only [String.toList_append, Nat.toList_repr, List.append_assoc]
  rfl

/-- The plain line of a record is the line of the fields that it shows. -/
theorem toList_render_plain (info : Info) : (render .plain info).toList = info.shown.text := by
  have parts : render .plain info =
      heading ++ ": " ++ info.text ++ " " ++ "[" ++ info.location.place ++ "]" ++
        info.location.functionPart := by
    simp only [render, pieces, List.map_cons, List.map_nil, Piece.write, String.join_cons,
      String.join_nil, String.empty_append, String.append_empty, String.append_assoc]
  rw [parts]
  simp only [String.toList_append, toList_text, toList_place, toList_functionPart, Shown.text,
    Shown.opening, List.append_assoc, List.cons_append]
  rfl

/-- A plain line whose file has no closing bracket in its name determines what it shows: two such
lines are equal exactly if the records agree on all fields that are shown, and each line is read
back as these fields. -/
theorem render_plain_determines (first second : Info)
    (firstFile : ']' ∉ first.location.file.toList)
    (secondFile : ']' ∉ second.location.file.toList) :
    (render .plain first = render .plain second ↔
      first.unhandled = second.unhandled ∧ first.tier = second.tier ∧
        first.family = second.family ∧ first.location.file = second.location.file ∧
        first.location.line = second.location.line ∧
        first.shown.function = second.shown.function) ∧
      Shown.read? (render .plain first).toList = some first.shown ∧
      Shown.read? (render .plain second).toList = some second.shown := by
  have firstRead : Shown.read? (render .plain first).toList = some first.shown := by
    rw [toList_render_plain, Shown.read?_text firstFile]
  have secondRead : Shown.read? (render .plain second).toList = some second.shown := by
    rw [toList_render_plain, Shown.read?_text secondFile]
  have lines : render .plain first = render .plain second ↔ first.shown = second.shown := by
    constructor
    · intro same
      rw [same, secondRead] at firstRead
      exact (Option.some.inj firstRead).symm
    · intro same
      rw [← String.toList_inj, toList_render_plain, toList_render_plain, same]
  refine ⟨lines.trans ?_, firstRead, secondRead⟩
  constructor
  · intro same
    exact ⟨congrArg Shown.unhandled same, congrArg Shown.tier same, congrArg Shown.family same,
      congrArg Shown.file same, congrArg Shown.line same, congrArg Shown.function same⟩
  · rintro ⟨unhandled, tier, family, file, line, function⟩
    change Shown.mk first.unhandled first.tier first.family first.location.file first.location.line
      first.shown.function = second.shown
    rw [unhandled, tier, family, file, line, function]
    rfl

/-- Names that hold the separators do no harm, and an empty name shows like an unknown one. -/
theorem render_plain_determines_separators :
    let first : Info := ⟨.audit, .assertion, ⟨"c:7 [f", "", 12, 1⟩, true⟩
    let second : Info := ⟨.audit, .assertion, ⟨"c:7 [f", "<unknown>", 12, 9⟩, true⟩
    let third : Info := ⟨.audit, .assertion, ⟨"c:7 [f", "g] in [unhandled]", 12, 1⟩, true⟩
    (']' ∉ first.location.file.toList ∧ ']' ∉ second.location.file.toList ∧
      ']' ∉ third.location.file.toList) ∧
      render .plain first = render .plain second ∧ render .plain first ≠ render .plain third ∧
      Shown.read? (render .plain third).toList =
        some ⟨true, .audit, .assertion, "c:7 [f", 12, some "g] in [unhandled]"⟩ := by
  intro first second third
  have noBracket : ']' ∉ "c:7 [f".toList := by decide
  rcases render_plain_determines first second noBracket noBracket with ⟨unnamed, -, -⟩
  rcases render_plain_determines first third noBracket noBracket with ⟨named, -, read⟩
  refine ⟨⟨noBracket, noBracket, noBracket⟩, unnamed.mpr (by decide), ?_, read⟩
  intro same
  have functions := (named.mp same).2.2.2.2.2
  exact absurd functions (by decide)

end Diagnostic
end Assurance
