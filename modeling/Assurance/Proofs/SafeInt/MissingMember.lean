import Assurance.Proofs.SafeInt.Members
import Mathlib.Logic.Relation

namespace Assurance
namespace Reading

/-!
# Missing members mean null

Members of an object can be changed in many ways without a change of its reading:
they can be moved about and spelled anew, a field that is null can be left out, one
that is missing can be put in as null, and members of other names can be put in at
will.  Each such edit keeps what the members say about each field, so any number of
them does, whichever way the result is laid out as a text.

What is read never holds a word under its mark.  So it can be written and read again
without a change, while an integer out of range is an error and not a poisoned field.

Main statement: `missing_means_null`.
-/

open Json

/-- A change of the members of an object that should not change its reading. -/
inductive Edit : List Member → List Member → Prop where
  | reorder {members rearranged : List Member} (same : members.Perm rearranged) :
      Edit members rearranged
  | rewrite {before after : List Member} {member again : Member} (key : again.key = member.key)
      (value : again.value = member.value) :
      Edit (before ++ member :: after) (before ++ again :: after)
  | removeNull {before after : List Member} {member : Member} (null : member.value = "null") :
      Edit (before ++ member :: after) (before ++ after)
  | addNull {before after : List Member} {member : Member} (null : member.value = "null")
      (missing : ∀ other ∈ before ++ after, other.key ≠ member.key) :
      Edit (before ++ after) (before ++ member :: after)
  | addUnknown {before after : List Member} {member : Member}
      (unknown : member.key ≠ "sensor" ∧ member.key ≠ "count") :
      Edit (before ++ after) (before ++ member :: after)

section Field

variable {kind : IntKind} {name : String} {value : SafeInt kind} {members edited : List Member}

theorem Gives.of_perm (gives : Gives name members value) (same : members.Perm edited) :
    Gives name edited value := by
  cases gives with
  | missing unnamed => exact .missing fun member among => unnamed member (same.mem_iff.mpr among)
  | present only decoded =>
      have kept := same.filter (·.key = name)
      rw [only] at kept
      exact .present (List.perm_singleton.mp kept.symm) decoded

/-- A member that is null gives the same as none. -/
theorem Gives.of_removed {before after : List Member} {member : Member}
    (gives : Gives name (before ++ member :: after) value) (null : member.value = "null") :
    Gives name (before ++ after) value := by
  by_cases named : member.key = name
  · rcases (gives_insert_of_eq named before after).mp gives with ⟨unnamed, decoded⟩
    rw [null, SafeInt.ofJson_null] at decoded
    cases decoded
    exact .missing unnamed
  · exact (gives_insert_of_ne named before after).mp gives

theorem Gives.of_added {before after : List Member} {member : Member}
    (gives : Gives name (before ++ after) value) (null : member.value = "null")
    (missing : ∀ other ∈ before ++ after, other.key ≠ member.key) :
    Gives name (before ++ member :: after) value := by
  by_cases named : member.key = name
  · subst named
    rw [gives_insert_of_eq rfl]
    refine ⟨missing, ?_⟩
    cases gives with
    | missing => rw [null, SafeInt.ofJson_null]
    | present only decoded =>
        rw [filter_named_eq_nil_iff.mpr missing] at only
        cases only
  · exact (gives_insert_of_ne named before after).mpr gives

theorem Gives.of_rewritten {before after : List Member} {member again : Member}
    (gives : Gives name (before ++ member :: after) value) (key : again.key = member.key)
    (same : again.value = member.value) : Gives name (before ++ again :: after) value := by
  by_cases named : member.key = name
  · rw [gives_insert_of_eq named] at gives
    rw [gives_insert_of_eq (key.trans named), same]
    exact gives
  · rw [gives_insert_of_ne named] at gives
    rwa [gives_insert_of_ne (key ▸ named)]

/-- An edit keeps what the members say about a field. -/
theorem Edit.gives (edit : Edit members edited) (field : name = "sensor" ∨ name = "count")
    (gives : Gives name members value) : Gives name edited value := by
  cases edit with
  | reorder same => exact gives.of_perm same
  | rewrite key same => exact gives.of_rewritten key same
  | removeNull null => exact gives.of_removed null
  | addNull null missing => exact gives.of_added null missing
  | addUnknown unknown =>
      refine (gives_insert_of_ne ?_ _ _).mpr gives
      rcases field with rfl | rfl
      · exact unknown.1
      · exact unknown.2

theorem gives_of_edits (edits : Relation.ReflTransGen Edit members edited)
    (field : name = "sensor" ∨ name = "count") (gives : Gives name members value) :
    Gives name edited value := by
  induction edits with
  | refl => exact gives
  | tail _ edit inductionHypothesis => exact edit.gives field inductionHypothesis

end Field

/-- Objects whose members are edits of each other are read alike. -/
theorem ofJson_of_edits {members edited : List Member} {text editedText : String}
    {reading : Reading} (written : Written members text)
    (edits : Relation.ReflTransGen Edit members edited) (editedWritten : Written edited editedText)
    (decoded : ofJson text = .ok reading) : ofJson editedText = .ok reading := by
  rcases (ofJson_eq_ok_iff_gives written).mp decoded with ⟨sensor, count⟩
  exact (ofJson_eq_ok_iff_gives editedWritten).mpr
    ⟨gives_of_edits edits (Or.inl rfl) sensor, gives_of_edits edits (Or.inr rfl) count⟩

/-- No field holds a word under its mark. -/
structure Canonical (reading : Reading) : Prop where
  sensor : reading.sensor.Canonical
  count : reading.count.Canonical

theorem Gives.canonical {kind : IntKind} {name : String} {members : List Member}
    {value : SafeInt kind} (narrow : kind.bits ≠ 128) (gives : Gives name members value) :
    value.Canonical := by
  cases gives with
  | missing => exact SafeInt.canonical_failure
  | @present member _ _ decoded =>
      exact ((SafeInt.ofJson_eq_ok_iff_denotes narrow member.isValue).mp decoded).canonical

theorem canonical_of_readArray {text rest : List Char} {reading : Reading}
    (read : readArray text = .ok (reading, rest)) : reading.Canonical := by
  unfold readArray at read
  rcases bind_eq_ok_iff.mp read with ⟨first, _, read⟩
  cases first with
  | none => cases read
  | some firstText =>
      rcases bind_eq_ok_iff.mp read with ⟨⟨sensor, left⟩, sensorRead, read⟩
      rcases bind_eq_ok_iff.mp read with ⟨second, _, read⟩
      cases second with
      | none => cases read
      | some secondText =>
          rcases bind_eq_ok_iff.mp read with ⟨⟨count, behind⟩, countRead, closed⟩
          rcases exists_of_readSafeInt (by decide) sensorRead with ⟨_, _, _, sensorDenotes, _⟩
          rcases exists_of_readSafeInt (by decide) countRead with ⟨_, _, _, countDenotes, _⟩
          simp only at closed
          split at closed
          · cases closed
          · cases closed
            exact ⟨sensorDenotes.canonical, countDenotes.canonical⟩
          · cases closed

/-- Whatever is read, from an object or from an array, holds no word under its mark. -/
theorem canonical_of_ofJson {text : String} {reading : Reading}
    (decoded : ofJson text = .ok reading) : reading.Canonical := by
  have whole := decoded
  unfold ofJson at whole
  simp only at whole
  split at whole
  · rcases bind_eq_ok_iff.mp whole with ⟨⟨found, rest⟩, read, finished⟩
    rcases bind_eq_ok_iff.mp finished with ⟨_, _, same⟩
    cases same
    exact canonical_of_readArray read
  · rename_i opened
    rcases exists_written decoded (by rw [opened]; rfl) with ⟨members, written⟩
    rcases (ofJson_eq_ok_iff_gives written).mp decoded with ⟨sensor, count⟩
    exact ⟨sensor.canonical (by decide), count.canonical (by decide)⟩
  · cases whole

/-- A member with nothing around its key and its value. -/
def memberOf {kind : IntKind} (name : String)
    (spelled : readString (name.toList ++ ['"']) = .ok (name.toList, [])) (value : SafeInt kind) :
    Member where
  front := .none
  spelling := name.toList
  key := name
  gap := .none
  space := .none
  value := value.toJson
  back := .none
  spelled := spelled
  isValue := (SafeInt.denotes_toJson value).isValue

/-- The two members that a reading is written with. -/
def toMembers (reading : Reading) : List Member :=
  [memberOf "sensor" rfl reading.sensor, memberOf "count" rfl reading.count]

theorem toJson_eq_objectOf (reading : Reading) : reading.toJson = objectOf reading.toMembers := by
  have sensor : "\x7b\"sensor\":".toList = '\x7b' :: '"' :: ("sensor".toList ++ ['"', ':']) := rfl
  have count : ",\"count\":".toList = ',' :: '"' :: ("count".toList ++ ['"', ':']) := rfl
  have brace : "\x7d".toList = ['\x7d'] := rfl
  rw [← String.toList_inj]
  simp only [toJson, objectOf, toMembers, memberOf, Member.writeAll, Member.writeKey,
    Member.writeValue, Blanks.none, String.toList_append, String.toList_ofList, sensor, count,
    brace, List.append_assoc, List.cons_append, List.nil_append]

/-- Reading what was written gives what can be read from both fields. -/
theorem ofJson_toJson (reading : Reading) :
    ofJson reading.toJson =
      .ok ⟨.ofOption reading.sensor.checked, .ofOption reading.count.checked⟩ := by
  rw [toJson_eq_objectOf, ofJson_eq_ok_iff_gives (written_objectOf _)]
  let sensor := memberOf "sensor" rfl reading.sensor
  let count := memberOf "count" rfl reading.count
  have sensorKey : sensor.key = "sensor" := rfl
  have countKey : count.key = "count" := rfl
  constructor
  · refine (gives_insert_of_eq sensorKey [] [count]).mpr ⟨?_, SafeInt.ofJson_toJson reading.sensor⟩
    intro other among
    cases List.mem_singleton.mp among
    rw [countKey]
    decide
  · refine (gives_insert_of_eq countKey [sensor] []).mpr ⟨?_, SafeInt.ofJson_toJson reading.count⟩
    intro other among
    cases List.mem_singleton.mp among
    rw [sensorKey]
    decide

theorem ofJson_toJson_of_canonical {reading : Reading} (canonical : reading.Canonical) :
    ofJson reading.toJson = .ok reading := by
  rw [ofJson_toJson, SafeInt.ofOption_checked canonical.sensor,
    SafeInt.ofOption_checked canonical.count]

theorem not_gives_of_not_inRange {kind : IntKind} {name : String} {members : List Member}
    {member : Member} {value : SafeInt kind} {number : Int} (among : member ∈ members)
    (named : member.key = name) (canonical : CanonicalInteger member.value.toList number)
    (outside : ¬ kind.InRange number) : ¬ Gives name members value := by
  rcases List.append_of_mem among with ⟨before, after, rfl⟩
  rw [gives_insert_of_eq named]
  rintro ⟨_, decoded⟩
  rcases SafeInt.ofJson_of_not_inRange canonical outside with ⟨failure, refused⟩
  rw [refused] at decoded
  cases decoded

/-- One member out of range makes the whole object an error. -/
theorem ofJson_of_not_inRange {members : List Member} {text : String}
    (written : Written members text) {member : Member} (among : member ∈ members) {number : Int}
    (canonical : CanonicalInteger member.value.toList number)
    (outside : member.key = "sensor" ∧ ¬ IntKind.i16.InRange number ∨
      member.key = "count" ∧ ¬ IntKind.u32.InRange number) :
    ∃ failure, ofJson text = .error failure := by
  cases decoded : ofJson text with
  | error failure => exact ⟨failure, rfl⟩
  | ok reading =>
      rcases (ofJson_eq_ok_iff_gives written).mp decoded with ⟨sensor, count⟩
      rcases outside with ⟨named, outside⟩ | ⟨named, outside⟩
      · exact absurd sensor (not_gives_of_not_inRange among named canonical outside)
      · exact absurd count (not_gives_of_not_inRange among named canonical outside)

/-! ## Missing members -/

/-- A reading comes back from its JSON form with both marks.  Every object that is read is written
as members, and any edits of them give an object of the same reading, where null and every integer
may be the value of a member that is put in.  Whatever text was read, writing and reading the result
gives it again.  And a field with an integer out of its range makes the whole object an error. -/
theorem missing_means_null :
    (∀ reading : Reading, SafeInt.Reached ⟨.i16, reading.sensor⟩ →
      SafeInt.Reached ⟨.u32, reading.count⟩ → ofJson reading.toJson = .ok reading) ∧
    (∀ (text : String) (reading : Reading), ofJson text = .ok reading →
      (skipBlanks text.toList).head? = some '\x7b' → ∃ members, Written members text) ∧
    (∀ (members edited : List Member) (text editedText : String) (reading : Reading),
      Written members text → Relation.ReflTransGen Edit members edited →
      Written edited editedText → ofJson text = .ok reading → ofJson editedText = .ok reading) ∧
    (IsValue "null".toList ∧
      ∀ negative digits, Numeral digits → IsValue (signedDigits negative digits)) ∧
    (∀ (text : String) (reading : Reading), ofJson text = .ok reading →
      ofJson reading.toJson = .ok reading) ∧
    ∀ (members : List Member) (text : String), Written members text →
      ∀ member ∈ members, ∀ number, CanonicalInteger member.value.toList number →
        (member.key = "sensor" ∧ ¬ IntKind.i16.InRange number ∨
          member.key = "count" ∧ ¬ IntKind.u32.InRange number) →
        ∃ failure, ofJson text = .error failure := by
  refine ⟨?_, ?_, ?_, ⟨isValue_null, ?_⟩, ?_, ?_⟩
  · intro reading sensor count
    exact ofJson_toJson_of_canonical
      ⟨SafeInt.canonical_of_reached sensor, SafeInt.canonical_of_reached count⟩
  · intro text reading decoded isObject
    exact exists_written decoded isObject
  · intro members edited text editedText reading written edits editedWritten decoded
    exact ofJson_of_edits written edits editedWritten decoded
  · intro negative digits numeral
    exact isValue_signedDigits negative numeral
  · intro text reading decoded
    exact ofJson_toJson_of_canonical (canonical_of_ofJson decoded)
  · intro members text written member among number canonical outside
    exact ofJson_of_not_inRange written among canonical outside

/-- A spelled-out key, a field that is left out, an unknown member that fits no kind, and an integer
one above the range. -/
theorem missing_means_null_respelled :
    let blank : Blanks := ⟨[' '], List.forall_mem_singleton.mpr rfl⟩
    let sensor : Member := ⟨blank, "\\u0073ensor".toList, "sensor", .none, blank, "-5", .none, rfl,
      ⟨rfl, rfl⟩⟩
    let null : Member := ⟨.none, "count".toList, "count", .none, .none, "null", .none, rfl,
      ⟨rfl, rfl⟩⟩
    let unknown : Member := ⟨.none, "x".toList, "x", .none, .none, "99999999999999999999999", .none,
      rfl, ⟨rfl, rfl⟩⟩
    let above : Member := ⟨.none, "sensor".toList, "sensor", .none, .none, "32768", .none, rfl,
      ⟨rfl, rfl⟩⟩
    let reading : Reading := ⟨SafeInt.ofWord ⟨-5, by decide⟩, SafeInt.failure .u32⟩
    ofJson "\x7b \"\\u0073ensor\": -5,\"count\":null\x7d" = .ok reading ∧
      Relation.ReflTransGen Edit [sensor, null] [unknown, sensor] ∧
      ofJson "\x7b\"x\":99999999999999999999999, \"\\u0073ensor\": -5\x7d" = .ok reading ∧
      ofJson reading.toJson = .ok reading ∧
      ∃ failure, ofJson (objectOf [above, null]) = .error failure := by
  intro blank sensor null unknown above reading
  rcases missing_means_null with ⟨back, members, edits, -, again, outside⟩
  have decoded : ofJson "\x7b \"\\u0073ensor\": -5,\"count\":null\x7d" = .ok reading := rfl
  have written : Written [sensor, null] "\x7b \"\\u0073ensor\": -5,\"count\":null\x7d" :=
    ⟨.none, .none, .none, by simp only [sensor, null, blank]; rfl⟩
  have editedWritten : Written [unknown, sensor]
      "\x7b\"x\":99999999999999999999999, \"\\u0073ensor\": -5\x7d" :=
    ⟨.none, .none, .none, by simp only [sensor, unknown, blank]; rfl⟩
  have edited : Relation.ReflTransGen Edit [sensor, null] [unknown, sensor] := by
    have removed : Edit ([sensor] ++ null :: []) ([sensor] ++ []) := .removeNull rfl
    have added : Edit ([] ++ [sensor]) ([] ++ unknown :: [sensor]) :=
      .addUnknown ⟨by decide, by decide⟩
    exact .tail (.single removed) added
  refine ⟨decoded, edited, ?_, ?_, ?_⟩
  · exact edits _ _ _ _ _ written edited editedWritten decoded
  · exact again _ _ decoded
  · have numeral : "32768".toList = Decimal.write 32768 := by decide
    have canonical : CanonicalInteger "32768".toList 32768 := by
      rw [numeral]
      exact canonicalInteger_write 32768
    exact outside _ _ (written_objectOf _) above List.mem_cons_self 32768 canonical
      (Or.inl ⟨rfl, by decide⟩)

end Reading
end Assurance
