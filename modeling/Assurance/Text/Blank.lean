import Assurance.Text.CodeSet

namespace Assurance

/-!
# Blanks

The characters with the Unicode property White_Space, and texts without the
blanks at their ends.
-/

namespace Text

/-- The characters with the property White_Space. -/
def blanks : CodeSet := ⟨
  [0x9, 0xE, 0x20, 0x21, 0x85, 0x86, 0xA0, 0xA1, 0x1680, 0x1681, 0x2000, 0x200B, 0x2028, 0x202A,
   0x202F, 0x2030, 0x205F, 0x2060, 0x3000, 0x3001]⟩

def isBlank (char : Char) : Bool := blanks.contains char

/-- A text without the blanks at its start. -/
def trimStart (text : List Char) : List Char := text.dropWhile isBlank

/-- A text without the blanks at its end. -/
def trimEnd (text : List Char) : List Char := (trimStart text.reverse).reverse

/-- A text without the blanks at its ends. -/
def trim (text : List Char) : List Char := trimEnd (trimStart text)

/-- A text is a core with blanks around it. -/
def Padded (text core : List Char) : Prop :=
  ∃ before after, text = before ++ core ++ after ∧ ∀ char ∈ before ++ after, isBlank char = true

theorem takeWhile_append_trimStart (text : List Char) :
    text.takeWhile isBlank ++ trimStart text = text :=
  List.takeWhile_append_dropWhile

theorem trimStart_append_of_blank {front : List Char} (blank : ∀ char ∈ front, isBlank char = true)
    (rest : List Char) : trimStart (front ++ rest) = trimStart rest :=
  List.dropWhile_append_of_pos blank

theorem trimStart_of_solid {text : List Char} (solid : ∀ char ∈ text.head?, isBlank char = false) :
    trimStart text = text := by
  cases text with
  | nil => rfl
  | cons char text =>
      have first : isBlank char = false := solid char rfl
      rw [trimStart, List.dropWhile_cons, first]
      rfl

theorem padded_trim (text : List Char) : Padded text (trim text) := by
  have back : trim text ++ ((trimStart text).reverse.takeWhile isBlank).reverse =
      trimStart text := by
    rw [trim, trimEnd, ← List.reverse_append, takeWhile_append_trimStart, List.reverse_reverse]
  refine ⟨text.takeWhile isBlank, ((trimStart text).reverse.takeWhile isBlank).reverse, ?_, ?_⟩
  · rw [List.append_assoc, back, takeWhile_append_trimStart]
  · intro char member
    rw [List.mem_append, List.mem_reverse] at member
    rcases member with member | member
    · exact List.all_eq_true.mp List.all_takeWhile char member
    · exact List.all_eq_true.mp List.all_takeWhile char member

/-- Trimming leaves the core of a text whose ends are not blank. -/
theorem trim_eq_iff {text core : List Char} (first : ∀ char ∈ core.head?, isBlank char = false)
    (last : ∀ char ∈ core.getLast?, isBlank char = false) :
    trim text = core ↔ Padded text core := by
  constructor
  · rintro rfl
    exact padded_trim text
  · rintro ⟨before, after, rfl, blank⟩
    have blankBefore : ∀ char ∈ before, isBlank char = true :=
      fun char member => blank char (List.mem_append_left after member)
    have blankAfter : ∀ char ∈ after.reverse, isBlank char = true :=
      fun char member => blank char (List.mem_append_right before (List.mem_reverse.mp member))
    have started : trimStart (before ++ core ++ after) = trimStart (core ++ after) := by
      rw [List.append_assoc, trimStart_append_of_blank blankBefore]
    have ended : trimEnd (core ++ after) = core := by
      have solid : ∀ char ∈ core.reverse.head?, isBlank char = false := by
        rw [List.head?_reverse]
        exact last
      rw [trimEnd, List.reverse_append, trimStart_append_of_blank blankAfter,
        trimStart_of_solid solid, List.reverse_reverse]
    cases core with
    | nil =>
        have empty : trimStart ([] ++ after) = [] := by
          have whole := trimStart_append_of_blank
            (fun char member => blank char (List.mem_append_right before member)) []
          rwa [List.append_nil] at whole
        rw [trim, started, empty]
        rfl
    | cons char core =>
        have kept : trimStart (char :: core ++ after) = char :: core ++ after :=
          trimStart_of_solid first
        rw [trim, started, kept, ended]

end Text

end Assurance
