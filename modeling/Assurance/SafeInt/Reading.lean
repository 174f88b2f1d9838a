import Assurance.SafeInt.Json

namespace Assurance

/-!
# Readings

A reading is a record of two safe integers, and its JSON form is an object with
one member for each.  When an object is read, members may stand in any order,
unknown members are passed over, a missing member counts as `null`, and a member
given twice is an error.  An array of the two values in order is accepted too.
-/

/-- A sensor value and a count. -/
structure Reading where
  sensor : SafeInt .i16
  count : SafeInt .u32
deriving DecidableEq

namespace Reading

def toJson (reading : Reading) : String :=
  "\x7b\"sensor\":" ++ reading.sensor.toJson ++ ",\"count\":" ++ reading.count.toJson ++ "\x7d"

/-- The members of an object that were read so far. -/
structure Partial where
  sensor : Option (SafeInt .i16) := none
  count : Option (SafeInt .u32) := none

/-- The reading of the members that were found; a missing one is poisoned. -/
def Partial.complete (found : Partial) : Reading :=
  ⟨found.sensor.getD (SafeInt.failure .i16), found.count.getD (SafeInt.failure .u32)⟩

open Json

def readColon (text : List Char) : Except Failure (List Char) :=
  match skipBlanks text with
  | [] => .error .truncated
  | ':' :: rest => .ok rest
  | _ => .error .malformed

/-- Reads the value of a member with a given key. -/
def readMember (found : Partial) (key : String) (text : List Char) :
    Except Failure (Partial × List Char) :=
  if key = "sensor" then
    if found.sensor.isSome then .error .mismatched
    else do
      let (value, rest) ← readSafeInt .i16 (← readColon text)
      .ok (⟨some value, found.count⟩, rest)
  else if key = "count" then
    if found.count.isSome then .error .mismatched
    else do
      let (value, rest) ← readSafeInt .u32 (← readColon text)
      .ok (⟨found.sensor, some value⟩, rest)
  else do
    .ok (found, ← skipValue (← readColon text))

/-- Reads the members that are left, at most `limit` of them, and the closing brace. -/
def readMembersWithin :
    (limit : Nat) → (first : Bool) → Partial → List Char → Except Failure (Partial × List Char)
  | 0, _, _, _ => .error .truncated
  | limit + 1, first, found, text =>
      let member (text : List Char) : Except Failure (Partial × List Char) := do
        let (key, rest) ← readString text
        let (found, rest) ← readMember found (String.ofList key) rest
        readMembersWithin limit false found rest
      match skipBlanks text with
      | [] => .error .truncated
      | '\x7d' :: rest => .ok (found, rest)
      | ',' :: rest =>
          if first then .error .malformed
          else match skipBlanks rest with
            | [] => .error .truncated
            | '"' :: rest => member rest
            | _ => .error .malformed
      | '"' :: rest => if first then member rest else .error .malformed
      | _ => .error .malformed

/-- Reads an object after its opening brace. -/
def readObject (text : List Char) : Except Failure (Reading × List Char) := do
  let (found, rest) ← readMembersWithin (text.length + 1) true {} text
  .ok (found.complete, rest)

/-- The text of the next element of an array; `none` says that the array ends here. -/
def nextElement (first : Bool) (text : List Char) : Except Failure (Option (List Char)) :=
  match skipBlanks text with
  | [] => .error .truncated
  | ']' :: _ => .ok none
  | ',' :: rest =>
      if first then .ok (some (',' :: rest))
      else match skipBlanks rest with
        | [] => .error .truncated
        | ']' :: _ => .error .malformed
        | text => .ok (some text)
  | text => if first then .ok (some text) else .error .malformed

/-- Reads an array after its opening bracket. -/
def readArray (text : List Char) : Except Failure (Reading × List Char) := do
  match ← nextElement true text with
  | none => .error .mismatched
  | some text =>
      let (sensor, text) ← readSafeInt .i16 text
      match ← nextElement false text with
      | none => .error .mismatched
      | some text =>
          let (count, text) ← readSafeInt .u32 text
          match skipBlanks text with
          | [] => .error .truncated
          | ']' :: rest => .ok (⟨sensor, count⟩, rest)
          | _ => .error .malformed

/-- The reading that a JSON text denotes. -/
def ofJson (text : String) : Except Failure Reading := do
  let (reading, rest) ← match skipBlanks text.toList with
    | '[' :: rest => readArray rest
    | '\x7b' :: rest => readObject rest
    | text => .error (refuse text)
  finish rest
  .ok reading

end Reading

end Assurance
