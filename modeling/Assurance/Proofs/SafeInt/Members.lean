import Assurance.Proofs.SafeInt.Embedding
import Assurance.SafeInt.Reading

namespace Assurance

/-!
# Readings from the members of an object

An object that is read is written as members with commas between them.  Its
reading depends on each field alone: either no member has the name of the field,
and the field is poisoned, or exactly one has, and the field is what the value of
that member denotes on its own.  Layout, the order of the members, the spelling of
their keys and all members with other names make no difference.

Main statements: `exists_written`, that every object that is read has members, and
`ofJson_eq_ok_iff_gives`, what it is read as.
-/

namespace Json

/-- Any number of blanks. -/
structure Blanks where
  chars : List Char
  blank : ∀ char ∈ chars, isBlank char = true

def Blanks.none : Blanks := ⟨[], nofun⟩

/-- A member of an object as it is written: its key may be spelled with escapes, and there may be
blanks around its key and around its value. -/
structure Member where
  front : Blanks
  spelling : List Char
  key : String
  gap : Blanks
  space : Blanks
  value : String
  back : Blanks
  spelled : readString (spelling ++ ['"']) = .ok (key.toList, [])
  isValue : IsValue value.toList

namespace Member

/-- The text of a member from behind its key, with another text behind it. -/
def writeValue (member : Member) (after : List Char) : List Char :=
  member.gap.chars ++ ':' ::
    (member.space.chars ++ (member.value.toList ++ (member.back.chars ++ after)))

/-- The text of a member from behind its opening quote, with another text behind it. -/
def writeKey (member : Member) (after : List Char) : List Char :=
  member.spelling ++ '"' :: member.writeValue after

/-- The text of the members that are left and of the closing brace, with another text behind it. -/
def writeAll : (first : Bool) → List Member → List Char → List Char
  | _, [], after => '\x7d' :: after
  | true, member :: members, after =>
      member.front.chars ++ '"' :: member.writeKey (writeAll false members after)
  | false, member :: members, after =>
      ',' :: (member.front.chars ++ '"' :: member.writeKey (writeAll false members after))

theorem length_le_writeAll (first : Bool) (members : List Member) (after : List Char) :
    members.length ≤ (writeAll first members after).length := by
  induction members generalizing first with
  | nil => exact Nat.zero_le _
  | cons member members inductionHypothesis =>
      have others := inductionHypothesis false
      cases first <;>
        simp only [writeAll, writeKey, writeValue, List.length_cons, List.length_append] <;> omega

theorem endsNumber_writeAll (back : Blanks) (members : List Member) (after : List Char) :
    EndsNumber (back.chars ++ writeAll false members after) := by
  refine endsNumber_append back.blank (endsNumber_of_closes ?_)
  cases members with
  | nil =>
      rintro _ ⟨⟩
      exact Or.inr (by decide)
  | cons member members =>
      rintro _ ⟨⟩
      exact Or.inr (by decide)

theorem readString_writeKey (member : Member) (after : List Char) :
    readString (member.writeKey after) = .ok (member.key.toList, member.writeValue after) := by
  rcases exists_of_readString member.spelled with ⟨spelling, shape, read⟩
  rw [writeKey, List.append_cancel_right shape]
  exact read _

end Member

end Json

namespace Reading

open Json

theorem readColon_append (gap : Blanks) (text : List Char) :
    readColon (gap.chars ++ ':' :: text) = .ok text := by
  simp only [readColon, skipBlanks_append gap.blank, @skipBlanks_cons ':' rfl]

/-- What a member does to a field: a member of its name gives it its value, but only once. -/
inductive FieldStep {kind : IntKind} (name : String) (member : Member) :
    Option (SafeInt kind) → Option (SafeInt kind) → Prop where
  | known {value : SafeInt kind} (named : member.key = name)
      (decoded : SafeInt.ofJson kind member.value = .ok value) :
      FieldStep name member none (some value)
  | other {found : Option (SafeInt kind)} (named : member.key ≠ name) :
      FieldStep name member found found

section Field

variable {kind : IntKind} {name : String} {member : Member} {found next : Option (SafeInt kind)}

theorem fieldStep_of_ne (named : member.key ≠ name) :
    FieldStep name member found next ↔ next = found := by
  constructor
  · rintro (⟨same, _⟩ | _)
    · exact absurd same named
    · rfl
  · rintro rfl
    exact .other named

theorem fieldStep_of_eq (named : member.key = name) :
    FieldStep name member found next ↔
      found = none ∧ ∃ value, next = some value ∧ SafeInt.ofJson kind member.value = .ok value := by
  constructor
  · rintro (⟨_, decoded⟩ | other)
    · exact ⟨rfl, _, rfl, decoded⟩
    · exact absurd named other
  · rintro ⟨rfl, value, rfl, decoded⟩
    exact .known named decoded

/-- Reads the value of a field that was not found yet. -/
def readField (kind : IntKind) (found : Option (SafeInt kind)) (text : List Char) :
    Except Failure (SafeInt kind × List Char) :=
  if found.isSome then .error .mismatched else do readSafeInt kind (← readColon text)

/-- The value of a member gives a field what it denotes on its own. -/
theorem readField_eq_ok_iff (narrow : kind.bits ≠ 128) (named : member.key = name)
    {after rest : List Char} (ends : EndsNumber (member.back.chars ++ after))
    {value : SafeInt kind} :
    readField kind found (member.writeValue after) = .ok (value, rest) ↔
      FieldStep name member found (some value) ∧ rest = member.back.chars ++ after := by
  rw [fieldStep_of_eq named]
  simp only [Option.some.injEq, exists_eq_left']
  rw [SafeInt.ofJson_eq_ok_iff_denotes narrow member.isValue]
  cases found with
  | some set => exact ⟨nofun, nofun⟩
  | none =>
      rw [readField, Option.isSome_none, if_neg Bool.false_ne_true, Member.writeValue,
        readColon_append]
      change readSafeInt kind _ = _ ↔ _
      rw [readSafeInt_append_eq_ok_iff narrow member.space.blank member.isValue ends,
        and_iff_right rfl]

end Field

/-- What a member does to both fields. -/
structure Step (member : Member) (found next : Partial) : Prop where
  sensor : FieldStep "sensor" member found.sensor next.sensor
  count : FieldStep "count" member found.count next.count

theorem readMember_sensor (found : Partial) (text : List Char) :
    readMember found "sensor" text = (readField .i16 found.sensor text).map
      fun (value, rest) => (⟨some value, found.count⟩, rest) := by
  rw [readMember, if_pos rfl, readField]
  split
  · rfl
  · cases readColon text with
    | error failure => rfl
    | ok left =>
        change (readSafeInt .i16 left).bind _ = (readSafeInt .i16 left).map _
        cases readSafeInt .i16 left <;> rfl

theorem readMember_count (found : Partial) (text : List Char) :
    readMember found "count" text = (readField .u32 found.count text).map
      fun (value, rest) => (⟨found.sensor, some value⟩, rest) := by
  rw [readMember, if_neg (by decide), if_pos rfl, readField]
  split
  · rfl
  · cases readColon text with
    | error failure => rfl
    | ok left =>
        change (readSafeInt .u32 left).bind _ = (readSafeInt .u32 left).map _
        cases readSafeInt .u32 left <;> rfl

theorem readMember_eq_ok_iff {member : Member} {found next : Partial} {after rest : List Char}
    (ends : EndsNumber (member.back.chars ++ after)) :
    readMember found member.key (member.writeValue after) = .ok (next, rest) ↔
      Step member found next ∧ rest = member.back.chars ++ after := by
  by_cases isSensor : member.key = "sensor"
  · have notCount : member.key ≠ "count" := by rw [isSensor]; decide
    rw [isSensor, readMember_sensor, map_eq_ok_iff]
    constructor
    · rintro ⟨⟨value, behind⟩, read, same⟩
      cases same
      rcases (readField_eq_ok_iff (by decide) isSensor ends).mp read with ⟨step, behind⟩
      exact ⟨⟨step, .other notCount⟩, behind⟩
    · rintro ⟨⟨sensorStep, countStep⟩, behind⟩
      rcases next with ⟨sensor, count⟩
      rcases (fieldStep_of_eq isSensor).mp sensorStep with ⟨_, value, rfl, _⟩
      cases (fieldStep_of_ne notCount).mp countStep
      exact ⟨_, (readField_eq_ok_iff (by decide) isSensor ends).mpr ⟨sensorStep, behind⟩, rfl⟩
  · by_cases isCount : member.key = "count"
    · rw [isCount, readMember_count, map_eq_ok_iff]
      constructor
      · rintro ⟨⟨value, behind⟩, read, same⟩
        cases same
        rcases (readField_eq_ok_iff (by decide) isCount ends).mp read with ⟨step, behind⟩
        exact ⟨⟨.other isSensor, step⟩, behind⟩
      · rintro ⟨⟨sensorStep, countStep⟩, behind⟩
        rcases next with ⟨sensor, count⟩
        rcases (fieldStep_of_eq isCount).mp countStep with ⟨_, value, rfl, _⟩
        cases (fieldStep_of_ne isSensor).mp sensorStep
        exact ⟨_, (readField_eq_ok_iff (by decide) isCount ends).mpr ⟨countStep, behind⟩, rfl⟩
    · -- A member of another name is passed over.
      have passed := member.isValue.skipValue_append member.space.blank ends
      rw [readMember, if_neg isSensor, if_neg isCount, Member.writeValue, readColon_append]
      change (skipValue _).bind _ = _ ↔ _
      rw [passed]
      constructor
      · intro same
        cases same
        exact ⟨⟨.other isSensor, .other isCount⟩, rfl⟩
      · rintro ⟨⟨sensorStep, countStep⟩, rfl⟩
        rcases next with ⟨sensor, count⟩
        cases (fieldStep_of_ne isSensor).mp sensorStep
        cases (fieldStep_of_ne isCount).mp countStep
        rfl

/-! ## All members -/

/-- What members do to a field, one after the other. -/
inductive FieldRun {kind : IntKind} (name : String) :
    List Member → Option (SafeInt kind) → Option (SafeInt kind) → Prop where
  | done {found : Option (SafeInt kind)} : FieldRun name [] found found
  | step {member : Member} {members : List Member} {found next last : Option (SafeInt kind)}
      (first : FieldStep name member found next) (others : FieldRun name members next last) :
      FieldRun name (member :: members) found last

/-- What members do to both fields. -/
structure Run (members : List Member) (found last : Partial) : Prop where
  sensor : FieldRun "sensor" members found.sensor last.sensor
  count : FieldRun "count" members found.count last.count

theorem run_nil_iff {found last : Partial} : Run [] found last ↔ last = found := by
  constructor
  · rcases found with ⟨sensor, count⟩
    rcases last with ⟨lastSensor, lastCount⟩
    rintro ⟨⟨⟩, ⟨⟩⟩
    rfl
  · rintro rfl
    exact ⟨.done, .done⟩

theorem run_cons_iff {member : Member} {members : List Member} {found last : Partial} :
    Run (member :: members) found last ↔
      ∃ next, Step member found next ∧ Run members next last := by
  constructor
  · rintro ⟨sensor, count⟩
    cases sensor with
    | step sensorStep sensorRun =>
        cases count with
        | step countStep countRun => exact ⟨⟨_, _⟩, ⟨sensorStep, countStep⟩, ⟨sensorRun, countRun⟩⟩
  · rintro ⟨next, ⟨sensorStep, countStep⟩, ⟨sensorRun, countRun⟩⟩
    exact ⟨.step sensorStep sensorRun, .step countStep countRun⟩

/-- One turn of the loop takes one member. -/
theorem readMembersWithin_cons (limit : Nat) (first : Bool) (found : Partial) (inner : Blanks)
    (member : Member) (members : List Member) (after : List Char) :
    readMembersWithin (limit + 1) first found
        (inner.chars ++ Member.writeAll first (member :: members) after) =
      (readMember found member.key (member.writeValue (Member.writeAll false members after))).bind
        fun (next, rest) => readMembersWithin limit false next rest := by
  have quote : ∀ text, skipBlanks ('"' :: text) = '"' :: text := fun _ => rfl
  have comma : ∀ text, skipBlanks (',' :: text) = ',' :: text := fun _ => rfl
  have key := member.readString_writeKey (Member.writeAll false members after)
  rw [← String.ofList_toList (s := member.key)]
  cases first with
  | true =>
      simp only [readMembersWithin, Member.writeAll, skipBlanks_append inner.blank,
        skipBlanks_append member.front.blank, quote, key, if_true]
      rfl
  | false =>
      simp only [readMembersWithin, Member.writeAll, skipBlanks_append inner.blank, comma,
        skipBlanks_append member.front.blank, quote, key, Bool.false_eq_true, if_false]
      rfl

/-- The members of an object are read with all that they do to the fields. -/
theorem readMembersWithin_eq_ok_iff {limit : Nat} {members : List Member}
    (within : members.length < limit) (first : Bool) (inner : Blanks) (after : List Char)
    {found last : Partial} {rest : List Char} :
    readMembersWithin limit first found (inner.chars ++ Member.writeAll first members after) =
        .ok (last, rest) ↔
      Run members found last ∧ rest = after := by
  induction members generalizing limit first inner found with
  | nil =>
      rcases Nat.exists_eq_succ_of_ne_zero (Nat.ne_of_gt within) with ⟨limit, rfl⟩
      have brace : skipBlanks ('\x7d' :: after) = '\x7d' :: after := rfl
      simp only [readMembersWithin, Member.writeAll, skipBlanks_append inner.blank, brace]
      rw [run_nil_iff, Except.ok.injEq, Prod.mk.injEq, eq_comm, eq_comm (a := after)]
  | cons member members inductionHypothesis =>
      rcases Nat.exists_eq_succ_of_ne_zero (Nat.ne_of_gt (Nat.zero_lt_of_lt within)) with
        ⟨limit, rfl⟩
      have fewer : members.length < limit := Nat.lt_of_succ_lt_succ within
      have ends := Member.endsNumber_writeAll member.back members after
      rw [readMembersWithin_cons]
      refine bind_eq_ok_iff.trans ?_
      rw [run_cons_iff]
      constructor
      · rintro ⟨⟨next, behind⟩, read, others⟩
        rcases (readMember_eq_ok_iff ends).mp read with ⟨step, rfl⟩
        rcases (inductionHypothesis fewer false member.back).mp others with ⟨run, left⟩
        exact ⟨⟨next, step, run⟩, left⟩
      · rintro ⟨⟨next, step, run⟩, left⟩
        exact ⟨_, (readMember_eq_ok_iff ends).mpr ⟨step, rfl⟩,
          (inductionHypothesis fewer false member.back).mpr ⟨run, left⟩⟩

theorem exists_of_readColon {text rest : List Char} (read : readColon text = .ok rest) :
    ∃ gap : Blanks, text = gap.chars ++ ':' :: rest := by
  unfold readColon at read
  split at read
  · cases read
  · rename_i opened
    cases read
    rcases exists_of_skipBlanks opened with ⟨gap, blank, rfl⟩
    exact ⟨⟨gap, blank⟩, rfl⟩
  · cases read

/-- Whatever becomes of its value, a member that is read is passed over. -/
theorem skipValue_of_readMember {found next : Partial} {key : String} {text rest : List Char}
    (read : readMember found key text = .ok (next, rest)) :
    ∃ left, readColon text = .ok left ∧ skipValue left = .ok rest := by
  have field : ∀ {kind : IntKind} {before : Option (SafeInt kind)} {value : SafeInt kind},
      kind.bits ≠ 128 → readField kind before text = .ok (value, rest) →
        ∃ left, readColon text = .ok left ∧ skipValue left = .ok rest := by
    intro kind before value narrow fieldRead
    unfold readField at fieldRead
    split at fieldRead
    · cases fieldRead
    · rcases bind_eq_ok_iff.mp fieldRead with ⟨left, colon, valueRead⟩
      rcases exists_of_readSafeInt narrow valueRead with ⟨_, _, _, _, _, passed⟩
      exact ⟨left, colon, passed⟩
  by_cases isSensor : key = "sensor"
  · rw [isSensor, readMember_sensor] at read
    rcases map_eq_ok_iff.mp read with ⟨⟨value, behind⟩, fieldRead, same⟩
    cases same
    exact field (by decide) fieldRead
  · by_cases isCount : key = "count"
    · rw [isCount, readMember_count] at read
      rcases map_eq_ok_iff.mp read with ⟨⟨value, behind⟩, fieldRead, same⟩
      cases same
      exact field (by decide) fieldRead
    · rw [readMember, if_neg isSensor, if_neg isCount] at read
      rcases bind_eq_ok_iff.mp read with ⟨left, colon, read⟩
      rcases bind_eq_ok_iff.mp read with ⟨behind, passed, same⟩
      cases same
      exact ⟨left, colon, passed⟩

/-- A member that is read is written as one, and the blanks behind its value belong to it. -/
theorem exists_member (front back : Blanks) {text chars left after : List Char}
    {found next : Partial} (spelled : readString text = .ok (chars, left))
    (read : readMember found (String.ofList chars) left = .ok (next, back.chars ++ after)) :
    ∃ member : Member, member.front = front ∧ text = member.writeKey after := by
  rcases exists_of_readString spelled with ⟨spelling, rfl, spellingRead⟩
  rcases skipValue_of_readMember read with ⟨opened, colon, passed⟩
  rcases exists_of_readColon colon with ⟨gap, rfl⟩
  rcases exists_of_skipValue passed with ⟨space, value, blank, isValue, rfl⟩
  refine ⟨⟨front, spelling, String.ofList chars, gap, ⟨space, blank⟩, String.ofList value, back,
    ?_, ?_⟩, rfl, ?_⟩
  · rw [String.toList_ofList]
    exact spellingRead []
  · rw [String.toList_ofList]
    exact isValue
  · simp only [Member.writeKey, Member.writeValue, String.toList_ofList]

/-- So are a member and the members behind it, from behind the opening quote. -/
theorem exists_of_readMember_bind {limit : Nat} {last : Partial} {rest : List Char}
    (others : ∀ {found : Partial} {text : List Char},
      readMembersWithin limit false found text = .ok (last, rest) →
        ∃ (inner : Blanks) (members : List Member),
          text = inner.chars ++ Member.writeAll false members rest)
    (front : Blanks) {found : Partial} {text : List Char}
    (read : (do
      let key ← readString text
      let next ← readMember found (String.ofList key.1) key.2
      readMembersWithin limit false next.1 next.2) = .ok (last, rest)) :
    ∃ member members, member.front = front ∧
      text = Member.writeKey member (Member.writeAll false members rest) := by
  rcases bind_eq_ok_iff.mp read with ⟨⟨chars, left⟩, spelled, read⟩
  rcases bind_eq_ok_iff.mp read with ⟨⟨next, behind⟩, memberRead, othersRead⟩
  rcases others othersRead with ⟨back, members, rfl⟩
  rcases exists_member front back spelled memberRead with ⟨member, isFront, rfl⟩
  exact ⟨member, members, isFront, rfl⟩

theorem exists_of_readMembersWithin {limit : Nat} {first : Bool} {found last : Partial}
    {text rest : List Char} (read : readMembersWithin limit first found text = .ok (last, rest)) :
    ∃ (inner : Blanks) (members : List Member),
      text = inner.chars ++ Member.writeAll first members rest := by
  induction limit generalizing first found text with
  | zero => cases read
  | succ limit inductionHypothesis =>
      simp only [readMembersWithin] at read
      split at read
      · cases read
      · rename_i closed
        cases read
        rcases exists_of_skipBlanks closed with ⟨inner, blank, rfl⟩
        exact ⟨⟨inner, blank⟩, [], rfl⟩
      · rename_i separated
        rcases exists_of_skipBlanks separated with ⟨inner, blank, rfl⟩
        split at read
        · cases read
        · rename_i notFirst
          split at read
          · cases read
          · rename_i opened
            rcases exists_of_skipBlanks opened with ⟨front, frontBlank, rfl⟩
            rcases exists_of_readMember_bind inductionHypothesis ⟨front, frontBlank⟩ read with
              ⟨member, members, isFront, rfl⟩
            refine ⟨⟨inner, blank⟩, member :: members, ?_⟩
            cases Bool.eq_false_iff.mpr notFirst
            rw [Member.writeAll, isFront]
          · cases read
      · rename_i opened
        rcases exists_of_skipBlanks opened with ⟨inner, blank, rfl⟩
        split at read
        · rename_i isFirst
          rcases exists_of_readMember_bind inductionHypothesis .none read with
            ⟨member, members, isFront, rfl⟩
          refine ⟨⟨inner, blank⟩, member :: members, ?_⟩
          cases isFirst
          rw [Member.writeAll, isFront]
          rfl
        · cases read
      · cases read

/-! ## Objects -/

/-- A text that is an object of given members. -/
def Written (members : List Member) (text : String) : Prop :=
  ∃ lead inner trail : Blanks,
    text.toList = lead.chars ++ '\x7b' :: (inner.chars ++ Member.writeAll true members trail.chars)

/-- The object of given members, with nothing around them. -/
def objectOf (members : List Member) : String :=
  String.ofList ('\x7b' :: Member.writeAll true members [])

theorem written_objectOf (members : List Member) : Written members (objectOf members) :=
  ⟨.none, .none, .none, String.toList_ofList⟩

/-- What members say about a field: none of them has its name and it is poisoned, or exactly one has
and the field is what its value denotes. -/
inductive Gives {kind : IntKind} (name : String) (members : List Member) : SafeInt kind → Prop where
  | missing (unnamed : ∀ member ∈ members, member.key ≠ name) :
      Gives name members (SafeInt.failure kind)
  | present {member : Member} {value : SafeInt kind}
      (only : members.filter (·.key = name) = [member])
      (decoded : SafeInt.ofJson kind member.value = .ok value) : Gives name members value

section Field

variable {kind : IntKind} {name : String} {value : SafeInt kind}

theorem filter_named_eq_nil_iff {members : List Member} :
    members.filter (·.key = name) = [] ↔ ∀ member ∈ members, member.key ≠ name := by
  simp only [List.filter_eq_nil_iff, decide_eq_true_eq, ne_eq]

/-- A member of another name says nothing, wherever it stands. -/
theorem gives_insert_of_ne {member : Member} (other : member.key ≠ name)
    (before after : List Member) :
    Gives name (before ++ member :: after) value ↔ Gives name (before ++ after) value := by
  have same : (before ++ member :: after).filter (·.key = name) =
      (before ++ after).filter (·.key = name) := by
    rw [List.filter_append, List.filter_append, List.filter_cons_of_neg (by simpa using other)]
  constructor
  · rintro (unnamed | ⟨only, decoded⟩)
    · rw [← filter_named_eq_nil_iff, same, filter_named_eq_nil_iff] at unnamed
      exact .missing unnamed
    · exact .present (same ▸ only) decoded
  · rintro (unnamed | ⟨only, decoded⟩)
    · rw [← filter_named_eq_nil_iff, ← same, filter_named_eq_nil_iff] at unnamed
      exact .missing unnamed
    · exact .present (same ▸ only) decoded

/-- A member of the name of a field is the only one of it, and gives the value. -/
theorem gives_insert_of_eq {member : Member} (named : member.key = name)
    (before after : List Member) :
    Gives name (before ++ member :: after) value ↔
      (∀ other ∈ before ++ after, other.key ≠ name) ∧
        SafeInt.ofJson kind member.value = .ok value := by
  have split : (before ++ member :: after).filter (·.key = name) =
      before.filter (·.key = name) ++ member :: after.filter (·.key = name) := by
    rw [List.filter_append, List.filter_cons_of_pos (by simpa using named)]
  constructor
  · rintro (unnamed | ⟨only, decoded⟩)
    · exact absurd named (unnamed member (by simp))
    · rw [split] at only
      rcases List.append_eq_singleton_iff.mp only with ⟨noneBefore, alone⟩ | ⟨_, empty⟩
      · rcases List.cons.inj alone with ⟨rfl, noneAfter⟩
        refine ⟨?_, decoded⟩
        rw [← filter_named_eq_nil_iff, List.filter_append, noneBefore, noneAfter, List.nil_append]
      · cases empty
  · rintro ⟨unnamed, decoded⟩
    rw [← filter_named_eq_nil_iff, List.filter_append, List.append_eq_nil_iff] at unnamed
    refine .present ?_ decoded
    rw [split, unnamed.1, unnamed.2, List.nil_append]

theorem fieldRun_some_iff {members : List Member} {last : Option (SafeInt kind)} :
    FieldRun name members (some value) last ↔
      (∀ member ∈ members, member.key ≠ name) ∧ last = some value := by
  induction members with
  | nil =>
      constructor
      · rintro ⟨⟩
        exact ⟨nofun, rfl⟩
      · rintro ⟨_, rfl⟩
        exact .done
  | cons member members inductionHypothesis =>
      rw [List.forall_mem_cons]
      constructor
      · rintro (_ | ⟨⟨_, _⟩ | other, others⟩)
        rcases inductionHypothesis.mp others with ⟨unnamed, same⟩
        exact ⟨⟨other, unnamed⟩, same⟩
      · rintro ⟨⟨other, unnamed⟩, same⟩
        exact .step (.other other) (inductionHypothesis.mpr ⟨unnamed, same⟩)

theorem exists_fieldRun_iff {members : List Member} :
    (∃ last, FieldRun name members none last ∧ last.getD (SafeInt.failure kind) = value) ↔
      Gives name members value := by
  induction members with
  | nil =>
      constructor
      · rintro ⟨last, ⟨⟩, rfl⟩
        exact .missing nofun
      · rintro (_ | ⟨only, _⟩)
        · exact ⟨none, .done, rfl⟩
        · cases only
  | cons member members inductionHypothesis =>
      by_cases named : member.key = name
      · refine Iff.trans ?_ (gives_insert_of_eq named [] members).symm
        constructor
        · rintro ⟨last, _ | ⟨⟨_, decoded⟩ | other, others⟩, rfl⟩
          · rcases fieldRun_some_iff.mp others with ⟨unnamed, rfl⟩
            exact ⟨unnamed, decoded⟩
          · exact absurd named other
        · rintro ⟨unnamed, decoded⟩
          have others : FieldRun name members (some value) (some value) :=
            fieldRun_some_iff.mpr ⟨unnamed, rfl⟩
          exact ⟨some value, .step (.known named decoded) others, rfl⟩
      · refine Iff.trans ?_ (gives_insert_of_ne named [] members).symm
        refine Iff.trans ?_ inductionHypothesis
        constructor
        · rintro ⟨last, _ | ⟨⟨same, _⟩ | _, others⟩, rfl⟩
          · exact absurd same named
          · exact ⟨last, others, rfl⟩
        · rintro ⟨last, others, same⟩
          exact ⟨last, .step (.other named) others, same⟩

end Field

theorem finish_eq_ok_iff {text : List Char} :
    finish text = .ok () ↔ ∀ char ∈ text, isBlank char = true := by
  refine ⟨blanks_of_finish, fun blank => ?_⟩
  have nothing := skipBlanks_append blank []
  rw [List.append_nil] at nothing
  rw [finish, nothing]
  rfl

/-- A text is read as an object if it begins with a brace. -/
theorem ofJson_of_object {text : String} {members : List Char}
    (opened : skipBlanks text.toList = '\x7b' :: members) {reading : Reading} :
    ofJson text = .ok reading ↔ ∃ found rest,
      readMembersWithin (members.length + 1) true {} members = .ok (found, rest) ∧
        found.complete = reading ∧ ∀ char ∈ rest, isBlank char = true := by
  unfold ofJson
  rw [opened]
  refine bind_eq_ok_iff.trans ?_
  constructor
  · rintro ⟨⟨read, rest⟩, objectRead, finished⟩
    rcases bind_eq_ok_iff.mp objectRead with ⟨⟨found, behind⟩, membersRead, same⟩
    rcases bind_eq_ok_iff.mp finished with ⟨_, blank, whole⟩
    cases same
    cases whole
    exact ⟨found, rest, membersRead, rfl, blanks_of_finish blank⟩
  · rintro ⟨found, rest, membersRead, rfl, blank⟩
    exact ⟨_, bind_eq_ok_iff.mpr ⟨_, membersRead, rfl⟩,
      bind_eq_ok_iff.mpr ⟨_, finish_eq_ok_iff.mpr blank, rfl⟩⟩

/-- What an object is read as, field by field. -/
theorem ofJson_eq_ok_iff_gives {members : List Member} {text : String}
    (written : Written members text) {reading : Reading} :
    ofJson text = .ok reading ↔
      Gives "sensor" members reading.sensor ∧ Gives "count" members reading.count := by
  rcases written with ⟨lead, inner, trail, shape⟩
  have opened : skipBlanks text.toList =
      '\x7b' :: (inner.chars ++ Member.writeAll true members trail.chars) := by
    rw [shape, skipBlanks_append lead.blank, skipBlanks_cons rfl]
  have within : members.length <
      (inner.chars ++ Member.writeAll true members trail.chars).length + 1 := by
    have least := Member.length_le_writeAll true members trail.chars
    rw [List.length_append]
    omega
  rw [ofJson_of_object opened, ← exists_fieldRun_iff, ← exists_fieldRun_iff]
  constructor
  · rintro ⟨found, rest, read, rfl, _⟩
    rcases (readMembersWithin_eq_ok_iff within true inner trail.chars).mp read with ⟨run, _⟩
    exact ⟨⟨found.sensor, run.sensor, rfl⟩, ⟨found.count, run.count, rfl⟩⟩
  · rintro ⟨⟨sensor, sensorRun, sensorSame⟩, ⟨count, countRun, countSame⟩⟩
    refine ⟨⟨sensor, count⟩, trail.chars, ?_, ?_, trail.blank⟩
    · exact (readMembersWithin_eq_ok_iff within true inner trail.chars).mpr
        ⟨⟨sensorRun, countRun⟩, rfl⟩
    · rw [Partial.complete, sensorSame, countSame]

/-- Every object that is read is written as members. -/
theorem exists_written {text : String} {reading : Reading} (decoded : ofJson text = .ok reading)
    (isObject : (skipBlanks text.toList).head? = some '\x7b') :
    ∃ members, Written members text := by
  rcases List.head?_eq_some_iff.mp isObject with ⟨inside, opened⟩
  rcases (ofJson_of_object opened).mp decoded with ⟨found, rest, read, _, blank⟩
  rcases exists_of_skipBlanks opened with ⟨lead, leadBlank, shape⟩
  rcases exists_of_readMembersWithin read with ⟨inner, members, rfl⟩
  exact ⟨members, ⟨lead, leadBlank⟩, inner, ⟨rest, blank⟩, shape⟩

end Reading
end Assurance
