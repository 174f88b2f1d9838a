namespace Assurance

/-!
# Layouts

How a value is laid out in a field: the sign that is always shown, the
alternate form, leading zeros, a least width with fill and alignment, and a
greatest length for text.  Numbers go to the right of their field by default
and text to the left.  Leading zeros are put after the sign and the base
mark, and win over fill and alignment.

Main statement: `length_pad`, a padded text is never shorter than its width.
-/

/-- Where a text stands in a wider field. -/
inductive Alignment where
  | left | center | right
deriving DecidableEq, Repr

/-- The digits in which a number is shown. -/
inductive Radix where
  | decimal | lowerHex | upperHex
deriving DecidableEq, Repr

/-- The directives for one field. -/
structure Layout where
  fill : Char := ' '
  alignment : Option Alignment := none
  /-- Show a plus sign on numbers that are not negative. -/
  plus : Bool := false
  /-- Show the base mark of hexadecimal numbers, and lay records out over several lines. -/
  alternate : Bool := false
  /-- Pad numbers with zeros after the sign. -/
  zeroPad : Bool := false
  width : Option Nat := none
  /-- The greatest number of characters shown of a text. -/
  precision : Option Nat := none
  radix : Radix := .decimal
deriving DecidableEq, Repr

namespace Layout

/-- A text filled up to a width, the missing characters distributed by the alignment. -/
def pad (fill : Char) (alignment : Alignment) (width : Nat) (text : List Char) : List Char :=
  let missing := width - text.length
  match alignment with
  | .left => text ++ List.replicate missing fill
  | .right => List.replicate missing fill ++ text
  | .center =>
      List.replicate (missing / 2) fill ++ text ++ List.replicate (missing - missing / 2) fill

theorem length_pad (fill : Char) (alignment : Alignment) (width : Nat) (text : List Char) :
    (pad fill alignment width text).length = max width text.length := by
  cases alignment <;> simp [pad] <;> omega

def layText (layout : Layout) (text : List Char) : List Char :=
  let shown := match layout.precision with
    | some limit => text.take limit
    | none => text
  match layout.width with
  | none => shown
  | some width => pad layout.fill (layout.alignment.getD .left) width shown

/-- The layout of a number given by its sign, its base mark and its digits. -/
def layNumber (layout : Layout) (sign mark digits : List Char) : List Char :=
  let head := sign ++ mark
  match layout.width with
  | none => head ++ digits
  | some width =>
      if layout.zeroPad then
        head ++ List.replicate (width - (head.length + digits.length)) '0' ++ digits
      else
        pad layout.fill (layout.alignment.getD .right) width (head ++ digits)

/-- The sign that is shown: a minus sign for negative numbers, a plus sign on demand. -/
def sign (layout : Layout) (negative : Bool) : List Char :=
  if negative then ['-'] else if layout.plus then ['+'] else []

end Layout

end Assurance
