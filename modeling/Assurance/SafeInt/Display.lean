import Assurance.Integer.Decimal
import Assurance.SafeInt.Basic
import Assurance.Text.Layout

namespace Assurance

/-!
# The text of safe integers

There are two texts.  The plain one is the numeral laid out by the layout, or
the fixed mark `[error]` for a poisoned value, which no directive changes.  The
detailed one names the kind, the stored word and the poison mark; the
directives reach the word and the mark.
-/

namespace Word

variable {kind : IntKind}

/-- The magnitude that is shown in hexadecimal: the two's-complement digits. -/
def magnitude (word : Word kind) : Nat :=
  (word.toInt % kind.modulus).toNat

/-- A word laid out as a signed decimal number. -/
def showDecimal (word : Word kind) (layout : Layout) : List Char :=
  layout.layNumber (layout.sign (decide (word.toInt < 0))) [] (Decimal.digits word.toInt.natAbs)

/-- A word laid out as an unsigned hexadecimal number. -/
def showHex (word : Word kind) (layout : Layout) (upper : Bool) : List Char :=
  let digits := Nat.toDigits 16 word.magnitude
  layout.layNumber (layout.sign false) (if layout.alternate then ['0', 'x'] else [])
    (if upper then digits.map Char.toUpper else digits)

/-- A word laid out in the radix of the layout. -/
def render (word : Word kind) (layout : Layout) : List Char :=
  match layout.radix with
  | .decimal => word.showDecimal layout
  | .lowerHex => word.showHex layout false
  | .upperHex => word.showHex layout true

end Word

/-- A record laid out as its name and its fields, each a label and an already laid out value. -/
def layRecord (layout : Layout) (name : String) (fields : List (String × List Char)) : List Char :=
  if layout.alternate then
    name.toList ++ " \x7b\n".toList ++
      (fields.flatMap fun (label, value) =>
        "    ".toList ++ label.toList ++ ": ".toList ++ value ++ ",\n".toList) ++ ['\x7d']
  else
    name.toList ++ " \x7b ".toList ++
      List.intercalate ", ".toList (fields.map fun (label, value) =>
        label.toList ++ ": ".toList ++ value) ++ " \x7d".toList

namespace SafeInt

variable {kind : IntKind}

/-- The text of a poisoned value. -/
def errorMark : String := "[error]"

def display (value : SafeInt kind) (layout : Layout) : String :=
  if value.poisoned then errorMark else String.ofList (value.stored.showDecimal layout)

/-- The detailed text of a value. -/
def detail (value : SafeInt kind) (layout : Layout) : String :=
  let mark := if value.poisoned then "true" else "false"
  String.ofList <| layRecord layout "SafeIntegral"
    [("ty", ['"'] ++ kind.name.toList ++ ['"']),
     ("val", value.stored.render layout),
     ("poisoned", layout.layText mark.toList)]

/-- The plain text of a value without directives. -/
def text (value : SafeInt kind) : String :=
  value.display {}

end SafeInt

end Assurance
