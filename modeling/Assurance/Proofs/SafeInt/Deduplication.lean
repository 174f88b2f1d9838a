import Mathlib.Data.Finset.Card
import Assurance.SafeInt.Order

namespace Assurance

/-!
# Deduplication

Values are inserted one after the other into a set that tells for each whether
it was new.  A value is new exactly if no earlier one stores the same word, so
the set ends with one member for each stored word, whatever the order of the
values.  A poisoned value stores zero, so all of them share one place with the
valid zero.

A hash set finds members by their hash and tells them apart by comparison.
Equality of values is an equivalence and equal values have equal hash keys, so
for every hasher a hash set reports the same and ends with the same members.

Main statement: `ValueSet.insertAll_deduplicates`.
-/

variable {kind : IntKind}

namespace ValueSet

theorem insert_of_contains {set : ValueSet kind} {value : SafeInt kind}
    (present : set.contains value = true) : set.insert value = (false, set) :=
  dif_pos present

theorem fst_insert (set : ValueSet kind) (value : SafeInt kind) :
    (set.insert value).1 = !set.contains value := by
  unfold insert
  split <;> simp_all

theorem members_insert_of_new {set : ValueSet kind} {value : SafeInt kind}
    (new : ¬ set.contains value = true) :
    (set.insert value).2.members = set.members ++ [value] := by
  unfold insert
  rw [dif_neg new]

/-- Inserting a value adds its word to those that are found, and no other. -/
theorem contains_insert_iff {set : ValueSet kind} {value probe : SafeInt kind} :
    (set.insert value).2.contains probe = true ↔
      set.contains probe = true ∨ value.stored = probe.stored := by
  by_cases present : set.contains value = true
  · rw [insert_of_contains present]
    refine ⟨Or.inl, ?_⟩
    rintro (found | same)
    · exact found
    · rcases contains_eq_true_iff.mp present with ⟨member, isMember, stored⟩
      exact contains_eq_true_iff.mpr ⟨member, isMember, stored.trans same⟩
  · simp only [contains_eq_true_iff, members_insert_of_new present, List.mem_append,
      List.mem_singleton, or_and_right, exists_or, exists_eq_left]

theorem members_insert_subset (set : ValueSet kind) (value : SafeInt kind) :
    ∀ member ∈ (set.insert value).2.members, member ∈ set.members ∨ member = value := by
  intro member isMember
  by_cases present : set.contains value = true
  · rw [insert_of_contains present] at isMember
    exact Or.inl isMember
  · rw [members_insert_of_new present] at isMember
    exact (List.mem_append.mp isMember).imp_right List.mem_singleton.mp

theorem insertAll_cons (set : ValueSet kind) (value : SafeInt kind)
    (values : List (SafeInt kind)) :
    set.insertAll (value :: values) =
      ((set.insert value).1 :: ((set.insert value).2.insertAll values).1,
        ((set.insert value).2.insertAll values).2) :=
  rfl

theorem insertAll_append (set : ValueSet kind) (earlier later : List (SafeInt kind)) :
    set.insertAll (earlier ++ later) =
      ((set.insertAll earlier).1 ++ ((set.insertAll earlier).2.insertAll later).1,
        ((set.insertAll earlier).2.insertAll later).2) := by
  induction earlier generalizing set with
  | nil => rfl
  | cons value earlier inductionHypothesis =>
      rw [List.cons_append, insertAll_cons, insertAll_cons, inductionHypothesis]
      rfl

theorem length_reports (set : ValueSet kind) (values : List (SafeInt kind)) :
    (set.insertAll values).1.length = values.length := by
  induction values generalizing set with
  | nil => rfl
  | cons value values inductionHypothesis =>
      rw [insertAll_cons, List.length_cons, inductionHypothesis, List.length_cons]

theorem contains_insertAll_iff {set : ValueSet kind} {values : List (SafeInt kind)}
    {probe : SafeInt kind} :
    (set.insertAll values).2.contains probe = true ↔
      set.contains probe = true ∨ ∃ value ∈ values, value.stored = probe.stored := by
  induction values generalizing set with
  | nil => simp [insertAll]
  | cons value values inductionHypothesis =>
      simp only [insertAll_cons, inductionHypothesis, contains_insert_iff, List.mem_cons,
        or_and_right, exists_or, exists_eq_left, or_assoc]

/-- A set that starts empty finds exactly the words that were inserted. -/
theorem contains_insertAll_empty_iff {values : List (SafeInt kind)} {probe : SafeInt kind} :
    ((empty kind).insertAll values).2.contains probe = true ↔
      ∃ value ∈ values, value.stored = probe.stored := by
  rw [contains_insertAll_iff]
  exact or_iff_right Bool.false_ne_true

theorem members_insertAll_subset (set : ValueSet kind) (values : List (SafeInt kind)) :
    ∀ member ∈ (set.insertAll values).2.members, member ∈ set.members ∨ member ∈ values := by
  induction values generalizing set with
  | nil => exact fun member isMember => Or.inl isMember
  | cons value values inductionHypothesis =>
      intro member isMember
      rcases inductionHypothesis (set.insert value).2 member isMember with before | among
      · rcases members_insert_subset set value member before with before | rfl
        · exact Or.inl before
        · exact Or.inr List.mem_cons_self
      · exact Or.inr (List.mem_cons_of_mem value among)

/-- Whether a value is new depends on the values before it alone. -/
theorem reports_getElem? (earlier : List (SafeInt kind)) (value : SafeInt kind)
    (later : List (SafeInt kind)) :
    ((empty kind).insertAll (earlier ++ value :: later)).1[earlier.length]? =
      some (decide (∀ other ∈ earlier, other.stored ≠ value.stored)) := by
  rw [insertAll_append, insertAll_cons, ← length_reports (empty kind) earlier]
  rw [List.getElem?_append_right (Nat.le_refl _), Nat.sub_self, List.getElem?_cons_zero, fst_insert]
  congr 1
  rw [Bool.eq_iff_iff, Bool.not_eq_true', decide_eq_true_iff, ← Bool.not_eq_true,
    contains_insertAll_empty_iff]
  simp

/-- The words that the members store. -/
def words (set : ValueSet kind) : List (Word kind) :=
  set.members.map SafeInt.stored

theorem nodup_words (set : ValueSet kind) : set.words.Nodup :=
  List.pairwise_map.mpr set.distinct

theorem mem_words_iff {set : ValueSet kind} {word : Word kind} :
    word ∈ set.words ↔ set.contains (SafeInt.ofWord word) = true := by
  rw [words, List.mem_map, contains_eq_true_iff]
  rfl

theorem mem_words_insertAll_iff {values : List (SafeInt kind)} {word : Word kind} :
    word ∈ ((empty kind).insertAll values).2.words ↔ ∃ value ∈ values, value.stored = word := by
  rw [mem_words_iff, contains_insertAll_empty_iff]
  rfl

theorem size_insertAll (values : List (SafeInt kind)) :
    ((empty kind).insertAll values).2.size = (values.map SafeInt.stored).toFinset.card := by
  have sameWords : ((empty kind).insertAll values).2.words.toFinset =
      (values.map SafeInt.stored).toFinset := by
    ext word
    rw [List.mem_toFinset, List.mem_toFinset, mem_words_insertAll_iff, List.mem_map]
  rw [← sameWords, List.toFinset_card_of_nodup (nodup_words _), words, List.length_map]
  rfl

theorem isZeroOrInvalid_iff {value : SafeInt kind} (canonical : value.Canonical) :
    value.isZeroOrInvalid = true ↔ value.stored = Word.zero kind := by
  simp only [SafeInt.isZeroOrInvalid, Bool.or_eq_true, decide_eq_true_iff]
  refine ⟨?_, fun zero => Or.inr (congrArg Word.toInt zero)⟩
  rintro (poisoned | zero)
  · exact canonical poisoned
  · exact Word.ext zero

/-- The poisoned values and the valid zero have one place together. -/
theorem countP_members_insertAll {values : List (SafeInt kind)}
    (canonical : ∀ value ∈ values, value.Canonical) :
    ((empty kind).insertAll values).2.members.countP SafeInt.isZeroOrInvalid =
      if ∃ value ∈ values, value.isZeroOrInvalid = true then 1 else 0 := by
  have zeroes : ((empty kind).insertAll values).2.members.countP SafeInt.isZeroOrInvalid =
      ((empty kind).insertAll values).2.words.count (Word.zero kind) := by
    rw [words, List.count_eq_countP, List.countP_map]
    refine List.countP_congr fun member isMember => ?_
    have among : member ∈ values :=
      (members_insertAll_subset _ values member isMember).resolve_left List.not_mem_nil
    rw [isZeroOrInvalid_iff (canonical member among), Function.comp_apply, beq_iff_eq]
  rw [zeroes, (nodup_words _).count]
  refine if_congr (mem_words_insertAll_iff.trans ?_) rfl rfl
  refine exists_congr fun value => and_congr_right fun among => ?_
  exact (isZeroOrInvalid_iff (canonical value among)).symm

end ValueSet

/-! ## Hash sets -/

/-- A safe integer as a member of a hash set with a given hasher, which sees the hash key of a value
and nothing else. -/
structure Hashed (hasher : Int → UInt64) (kind : IntKind) where
  value : SafeInt kind

namespace Hashed

variable {hasher : Int → UInt64}

instance : BEq (Hashed hasher kind) where
  beq left right := (SafeInt.Comparison.values left.value right.value).eq

instance : Hashable (Hashed hasher kind) where
  hash member := hasher member.value.hashKey

theorem beq_iff {left right : Hashed hasher kind} :
    (left == right) = true ↔ left.value.stored = right.value.stored := by
  change (left.value.stored == right.value.stored) = true ↔ _
  exact beq_iff_eq

instance : EquivBEq (Hashed hasher kind) where
  rfl := beq_iff.mpr rfl
  symm same := beq_iff.mpr (beq_iff.mp same).symm
  trans first second := beq_iff.mpr ((beq_iff.mp first).trans (beq_iff.mp second))

instance : LawfulHashable (Hashed hasher kind) where
  hash_eq _ _ same := congrArg (fun word => hasher word.toInt) (beq_iff.mp same)

/-- Inserts values one after the other into a hash set, telling for each whether it was new. -/
def insertAll (set : Std.HashSet (Hashed hasher kind)) :
    List (SafeInt kind) → List Bool × Std.HashSet (Hashed hasher kind)
  | [] => ([], set)
  | value :: values =>
      let (present, next) := set.containsThenInsert ⟨value⟩
      let (rest, last) := insertAll next values
      ((!present) :: rest, last)

/-- A hash set holds the members of a set, in an order of its own. -/
def Holds (hashed : Std.HashSet (Hashed hasher kind)) (set : ValueSet kind) : Prop :=
  hashed.toList.Perm (set.members.map mk)

theorem contains_of_holds {hashed : Std.HashSet (Hashed hasher kind)} {set : ValueSet kind}
    (holds : Holds hashed set) (value : SafeInt kind) :
    hashed.contains ⟨value⟩ = set.contains value := by
  rw [← Std.HashSet.contains_toList, Bool.eq_iff_iff, List.contains_iff_exists_mem_beq,
    ValueSet.contains_eq_true_iff]
  simp only [holds.mem_iff, List.mem_map, exists_exists_and_eq_and, beq_iff]
  simp only [eq_comm]

theorem holds_insert {hashed : Std.HashSet (Hashed hasher kind)} {set : ValueSet kind}
    (holds : Holds hashed set) (value : SafeInt kind) :
    Holds (hashed.insert ⟨value⟩) (set.insert value).2 := by
  have inserted : (hashed.insert ⟨value⟩).toList.Perm
      (if ⟨value⟩ ∈ hashed then hashed.toList else ⟨value⟩ :: hashed.toList) :=
    Std.HashSet.toList_insert_perm
  have found : (⟨value⟩ : Hashed hasher kind) ∈ hashed ↔ set.contains value = true := by
    rw [Std.HashSet.mem_iff_contains, contains_of_holds holds]
  by_cases present : set.contains value = true
  · rw [if_pos (found.mpr present)] at inserted
    rw [ValueSet.insert_of_contains present]
    exact inserted.trans holds
  · rw [if_neg (mt found.mp present)] at inserted
    rw [Holds, ValueSet.members_insert_of_new present, List.map_append, List.map_singleton]
    exact inserted.trans ((holds.cons _).trans (List.perm_append_singleton _ _).symm)

theorem holds_insertAll {hashed : Std.HashSet (Hashed hasher kind)} {set : ValueSet kind}
    (holds : Holds hashed set) (values : List (SafeInt kind)) :
    (insertAll hashed values).1 = (set.insertAll values).1 ∧
      Holds (insertAll hashed values).2 (set.insertAll values).2 := by
  induction values generalizing hashed set with
  | nil => exact ⟨rfl, holds⟩
  | cons value values inductionHypothesis =>
      rw [ValueSet.insertAll_cons]
      simp only [insertAll, Std.HashSet.containsThenInsert_fst, Std.HashSet.containsThenInsert_snd,
        contains_of_holds holds, ValueSet.fst_insert]
      rcases inductionHypothesis (holds_insert holds value) with ⟨reports, members⟩
      exact ⟨congrArg _ reports, members⟩

theorem holds_empty : Holds (∅ : Std.HashSet (Hashed hasher kind)) (ValueSet.empty kind) := by
  rw [Holds, Std.HashSet.toList_empty]
  exact List.Perm.nil

end Hashed

/-! ## The outcome -/

/-- What inserting values one after the other comes to: the reports, the members in some order, and
what is found afterwards. -/
structure Deduplicates (values : List (SafeInt kind)) (reports : List Bool)
    (members : List (SafeInt kind)) (found : SafeInt kind → Bool) : Prop where
  length_reports : reports.length = values.length
  /-- A value is reported as new exactly if no earlier one stores the same word. -/
  report : ∀ earlier value later, values = earlier ++ value :: later →
    reports[earlier.length]? = some (decide (∀ other ∈ earlier, other.stored ≠ value.stored))
  size : members.length = (values.map SafeInt.stored).toFinset.card
  content : ∀ probe, found probe = true ↔ ∃ value ∈ values, value.stored = probe.stored
  /-- The poisoned values and the valid zero have one place together. -/
  zero : members.countP SafeInt.isZeroOrInvalid =
    if ∃ value ∈ values, value.isZeroOrInvalid = true then 1 else 0

theorem ValueSet.deduplicates {values : List (SafeInt kind)}
    (canonical : ∀ value ∈ values, value.Canonical) :
    Deduplicates values ((empty kind).insertAll values).1 ((empty kind).insertAll values).2.members
      ((empty kind).insertAll values).2.contains where
  length_reports := length_reports _ values
  report := by
    rintro earlier value later rfl
    exact reports_getElem? earlier value later
  size := size_insertAll values
  content _ := contains_insertAll_empty_iff
  zero := countP_members_insertAll canonical

theorem Hashed.deduplicates (hasher : Int → UInt64) {values : List (SafeInt kind)}
    (canonical : ∀ value ∈ values, value.Canonical) :
    let hashed := insertAll (∅ : Std.HashSet (Hashed hasher kind)) values
    Deduplicates values hashed.1 (hashed.2.toList.map Hashed.value)
      (fun probe => hashed.2.contains ⟨probe⟩) := by
  intro hashed
  have start : Holds (∅ : Std.HashSet (Hashed hasher kind)) (ValueSet.empty kind) := holds_empty
  rcases holds_insertAll start values with ⟨reports, holds⟩
  have members : (hashed.2.toList.map Hashed.value).Perm
      ((ValueSet.empty kind).insertAll values).2.members := by
    have unwrapped := holds.map Hashed.value
    rwa [List.map_map, List.map_id''] at unwrapped
    exact fun member => rfl
  have ideal := ValueSet.deduplicates canonical
  exact {
    length_reports := reports ▸ ideal.length_reports
    report := reports ▸ ideal.report
    size := members.length_eq.trans ideal.size
    content := fun probe => by
      rw [contains_of_holds holds]
      exact ideal.content probe
    zero := (members.countP_eq _).trans ideal.zero }

/-- Two sets into which the same values went in another order are of one size and find the same. -/
theorem Deduplicates.same_of_perm {first second : List (SafeInt kind)} {reports others : List Bool}
    {members reordered : List (SafeInt kind)} {found refound : SafeInt kind → Bool}
    (left : Deduplicates first reports members found)
    (right : Deduplicates second others reordered refound) (rearranged : first.Perm second) :
    members.length = reordered.length ∧ found = refound := by
  constructor
  · rw [left.size, right.size, List.toFinset_eq_of_perm _ _ (rearranged.map SafeInt.stored)]
  · funext probe
    rw [Bool.eq_iff_iff, left.content, right.content]
    simp only [rearranged.mem_iff]

/-- Values that went into an empty set, be it the ideal one or a hash set with any hasher, are
deduplicated by the words that they store, and their order does not matter for the size of the set
and for what it finds. -/
theorem ValueSet.insertAll_deduplicates (kind : IntKind) (values : List (SafeInt kind))
    (canonical : ∀ value ∈ values, value.Canonical) :
    let inserted (values : List (SafeInt kind)) := (empty kind).insertAll values
    let hashed (hasher : Int → UInt64) (values : List (SafeInt kind)) :=
      Hashed.insertAll (∅ : Std.HashSet (Hashed hasher kind)) values
    Deduplicates values (inserted values).1 (inserted values).2.members
        (inserted values).2.contains ∧
      (∀ hasher, Deduplicates values (hashed hasher values).1
        ((hashed hasher values).2.toList.map Hashed.value)
        fun probe => (hashed hasher values).2.contains ⟨probe⟩) ∧
      ∀ rearranged : List (SafeInt kind), rearranged.Perm values →
        ((inserted rearranged).2.size = (inserted values).2.size ∧
          (inserted rearranged).2.contains = (inserted values).2.contains) ∧
        ∀ hasher, (hashed hasher rearranged).2.size = (hashed hasher values).2.size ∧
          ∀ probe, (hashed hasher rearranged).2.contains ⟨probe⟩ =
            (hashed hasher values).2.contains ⟨probe⟩ := by
  intro inserted hashed
  refine ⟨deduplicates canonical, fun hasher => Hashed.deduplicates hasher canonical, ?_⟩
  intro rearranged same
  have rearrangedCanonical : ∀ value ∈ rearranged, value.Canonical :=
    fun value among => canonical value (same.mem_iff.mp among)
  refine ⟨(deduplicates rearrangedCanonical).same_of_perm (deduplicates canonical) same, ?_⟩
  intro hasher
  rcases (Hashed.deduplicates hasher rearrangedCanonical).same_of_perm
    (Hashed.deduplicates hasher canonical) same with ⟨sizes, contents⟩
  rw [List.length_map, Std.HashSet.length_toList, List.length_map,
    Std.HashSet.length_toList] at sizes
  exact ⟨sizes, congrFun contents⟩

/-- Two poisoned values and a valid zero between two fives leave two members, in either order. -/
theorem ValueSet.insertAll_deduplicates_poison :
    let lost := SafeInt.failure .i8
    let five : SafeInt .i8 := SafeInt.ofWord ⟨5, by decide⟩
    let values := [lost, five, SafeInt.zero .i8, five, lost]
    (∀ value ∈ values, value.Canonical) ∧
      Deduplicates values [true, true, false, false, false] [lost, five]
        ((empty .i8).insertAll values).2.contains ∧
      ((empty .i8).insertAll values.reverse).2.size = 2 ∧
      (Hashed.insertAll (∅ : Std.HashSet (Hashed (fun _ => 0) .i8)) values.reverse).2.contains
        ⟨SafeInt.zero .i8⟩ = true := by
  intro lost five values
  have canonical : ∀ value ∈ values, value.Canonical := by
    simp only [values, List.forall_mem_cons, List.not_mem_nil, false_implies, implies_true, and_true]
    exact ⟨SafeInt.canonical_failure, SafeInt.canonical_ofWord _, SafeInt.canonical_ofWord _,
      SafeInt.canonical_ofWord _, SafeInt.canonical_failure⟩
  rcases insertAll_deduplicates .i8 values canonical with ⟨ideal, hashed, anyOrder⟩
  rcases anyOrder values.reverse values.reverse_perm with ⟨⟨sizes, -⟩, hashedAnyOrder⟩
  refine ⟨canonical, ideal, sizes.trans rfl, ?_⟩
  rw [(hashedAnyOrder _).2, (hashed _).content]
  exact ⟨SafeInt.zero .i8, by simp [values], rfl⟩

end Assurance
