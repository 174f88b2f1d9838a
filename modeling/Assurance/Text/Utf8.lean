namespace Assurance

/-!
# Byte strings

Values that come from the environment are byte strings, which need not be text.
-/

/-- A string of bytes. -/
abbrev ByteString := List UInt8

namespace ByteString

/-- The text whose UTF-8 form the bytes are, if they are one. -/
def decode? (bytes : ByteString) : Option String :=
  String.fromUTF8? (ByteArray.mk bytes.toArray)

def ofText (text : String) : ByteString :=
  text.toUTF8.toList

theorem toList_loop (bytes : ByteArray) (position : Nat) (collected : List UInt8) :
    ByteArray.toList.loop bytes position collected =
      collected.reverse ++ bytes.data.toList.drop position := by
  fun_induction ByteArray.toList.loop bytes position collected with
  | case1 position collected inside inductionHypothesis =>
      have bound : position < bytes.data.toList.length := by simpa using inside
      rw [inductionHypothesis, List.drop_eq_getElem_cons bound]
      simp [ByteArray.get!, inside]
  | case2 position collected outside =>
      have past : bytes.data.toList.length ≤ position := by simpa using Nat.le_of_not_lt outside
      rw [List.drop_eq_nil_of_le past, List.append_nil]

/-- Bytes are decoded to a text exactly if they are its UTF-8 form. -/
theorem decode?_eq_some_iff {bytes : ByteString} {text : String} :
    decode? bytes = some text ↔ bytes = ofText text := by
  have listed : ofText text = text.toByteArray.data.toList := by
    rw [ofText, String.toUTF8_eq_toByteArray, ByteArray.toList, toList_loop]
    rfl
  rw [listed, decode?, String.fromUTF8?]
  constructor
  · intro decoded
    split at decoded
    · cases decoded
      rfl
    · cases decoded
  · intro encoded
    have whole : ByteArray.mk bytes.toArray = text.toByteArray := by rw [encoded]
    rw [whole, dif_pos text.isValidUTF8]
    rfl

end ByteString

end Assurance
