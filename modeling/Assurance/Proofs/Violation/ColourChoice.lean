import Assurance.Violation.Colour
import Mathlib.Data.List.Forall2

namespace Assurance

/-!
# Colour choices

An explicit choice decides if it is text whose lowercase form is one of six
words.  A choice that is not set, not text or any other text leaves the decision
to the request for no colour and to the terminal, in this order.

Which texts have such a lowercase form depends on the letter case of all of
Unicode.  Little of it matters, since the words are ASCII: two characters beyond
ASCII have an ASCII character in their lowercase form, and every other one has
none.  `Lowercasing` is any mapping with these properties, and all of them agree
on the words.

Main statement: `ColourSources.detect_eq_ansi_iff`.
-/

/-- What is known about the lowercase form of a character, which may depend on where the character
stands. -/
inductive LowersTo : Char → List Char → Prop where
  | ascii {char : Char} (inside : char.toNat < 128) : LowersTo char [char.toLower]
  | kelvin : LowersTo '\u212a' ['k']
  | dotted : LowersTo '\u0130' ['i', '\u0307']
  | other {char : Char} {piece : List Char} (outside : 128 ≤ char.toNat)
      (noKelvin : char ≠ '\u212a') (noDotted : char ≠ '\u0130') (nonempty : piece ≠ [])
      (beyond : ∀ part ∈ piece, 128 ≤ part.toNat) : LowersTo char piece

/-- A mapping of texts to their lowercase forms. -/
structure Lowercasing where
  form : String → String
  /-- A form is put together from the forms of the characters. -/
  pieces : ∀ text, ∃ pieces,
    List.Forall₂ LowersTo text.toList pieces ∧ (form text).toList = pieces.flatten

/-- A form without a character beyond ASCII is the only one that its character has. -/
theorem LowersTo.eq_of_ascii {char : Char} {first second : List Char}
    (lowers : LowersTo char first) (again : LowersTo char second)
    (ascii : ∀ part ∈ first, part.toNat < 128) : second = first := by
  cases lowers with
  | ascii inside =>
      cases again with
      | ascii => rfl
      | kelvin => exact absurd inside (by decide)
      | dotted => exact absurd inside (by decide)
      | other outside => exact absurd inside (Nat.not_lt_of_le outside)
  | kelvin =>
      cases again with
      | ascii inside => exact absurd inside (by decide)
      | kelvin => rfl
      | other outside noKelvin => exact absurd rfl noKelvin
  | dotted => exact absurd (ascii '\u0307' (by decide)) (by decide)
  | other outside noKelvin noDotted nonempty beyond =>
      rcases List.exists_mem_of_ne_nil first nonempty with ⟨part, member⟩
      exact absurd (ascii part member) (Nat.not_lt_of_le (beyond part member))

theorem eq_of_forall₂_lowersTo {text : List Char} {first second : List (List Char)}
    (lowers : List.Forall₂ LowersTo text first) (again : List.Forall₂ LowersTo text second)
    (ascii : ∀ part ∈ first.flatten, part.toNat < 128) : second = first := by
  induction lowers generalizing second with
  | nil =>
      cases again
      rfl
  | cons head tail inductionHypothesis =>
      cases again with
      | cons otherHead otherTail =>
          rw [List.flatten_cons, List.forall_mem_append] at ascii
          rw [head.eq_of_ascii otherHead ascii.1, inductionHypothesis otherTail ascii.2]

namespace Lowercasing

/-- Two mappings agree wherever one of them gives an ASCII text. -/
theorem form_eq_of_ascii (first second : Lowercasing) {text : String}
    (ascii : ∀ part ∈ (first.form text).toList, part.toNat < 128) :
    second.form text = first.form text := by
  rcases first.pieces text with ⟨firstPieces, firstLowers, firstForm⟩
  rcases second.pieces text with ⟨secondPieces, secondLowers, secondForm⟩
  rw [firstForm] at ascii
  rw [← String.toList_inj, firstForm, secondForm,
    eq_of_forall₂_lowersTo firstLowers secondLowers ascii]

theorem form_mem_iff (first second : Lowercasing) {words : List String}
    (ascii : ∀ word ∈ words, ∀ part ∈ word.toList, part.toNat < 128) {text : String} :
    first.form text ∈ words ↔ second.form text ∈ words := by
  constructor
  · intro member
    rw [first.form_eq_of_ascii second (ascii _ member)]
    exact member
  · intro member
    rw [second.form_eq_of_ascii first (ascii _ member)]
    exact member

end Lowercasing

theorem toLower_of_beyond {char : Char} (outside : 128 ≤ char.toNat) : char.toLower = char := by
  unfold Char.toLower
  rw [dif_neg]
  rintro ⟨-, upper⟩
  have bound : char.toNat ≤ 90 := UInt32.le_iff_toNat_le.mp upper
  omega

namespace ColourSources

theorem lowersTo_lowercase (char : Char) : LowersTo char (lowercase char) := by
  unfold lowercase
  split
  · rename_i kelvin
    rw [kelvin]
    exact .kelvin
  · rename_i noKelvin
    split
    · rename_i dotted
      rw [dotted]
      exact .dotted
    · rename_i noDotted
      by_cases inside : char.toNat < 128
      · exact .ascii inside
      · have outside : 128 ≤ char.toNat := Nat.le_of_not_lt inside
        rw [toLower_of_beyond outside]
        exact .other outside noKelvin noDotted (List.cons_ne_nil char [])
          (List.forall_mem_singleton.mpr outside)

/-- The mapping that the colour policy uses. -/
def lowercasing : Lowercasing where
  form := fun text => String.ofList (text.toList.flatMap lowercase)
  pieces := by
    intro text
    refine ⟨text.toList.map lowercase, ?_, ?_⟩
    · rw [List.forall₂_map_right_iff, List.forall₂_same]
      intro char member
      exact lowersTo_lowercase char
    · rw [String.toList_ofList, List.flatMap_def]

/-- A value is set, and is text whose lowercase form is one of some words. -/
def Spells (lowers : Lowercasing) (words : List String) (value : Option ByteString) : Prop :=
  ∃ text, value = some (ByteString.ofText text) ∧ lowers.form text ∈ words

/-- A choice of colours. -/
def IsOn (lowers : Lowercasing) (value : Option ByteString) : Prop :=
  Spells lowers ["always", "ansi", "1"] value

/-- A choice of no colours. -/
def IsOff (lowers : Lowercasing) (value : Option ByteString) : Prop :=
  Spells lowers ["never", "plain", "0"] value

theorem spells_some_iff (lowers : Lowercasing) {words : List String}
    (ascii : ∀ word ∈ words, ∀ part ∈ word.toList, part.toNat < 128) {value : ByteString} :
    spells words value = true ↔ Spells lowers words (some value) := by
  have decided : spells words value = true ↔
      ∃ text, value.decode? = some text ∧ lowercasing.form text ∈ words := by
    unfold spells
    cases value.decode? with
    | none => simp
    | some text => simp [lowercasing]
  rw [decided, Spells]
  refine exists_congr fun text => and_congr ?_ (lowercasing.form_mem_iff lowers ascii)
  rw [ByteString.decode?_eq_some_iff, Option.some.injEq]

theorem spells_onWords_iff (lowers : Lowercasing) {value : ByteString} :
    spells onWords value = true ↔ IsOn lowers (some value) :=
  spells_some_iff lowers (by simp [onWords])

theorem spells_offWords_iff (lowers : Lowercasing) {value : ByteString} :
    spells offWords value = true ↔ IsOff lowers (some value) :=
  spells_some_iff lowers (by simp [offWords])

/-- No choice is for colours and against them. -/
theorem not_isOff_of_isOn {lowers : Lowercasing} {value : Option ByteString}
    (on : IsOn lowers value) : ¬ IsOff lowers value := by
  rintro ⟨offText, offValue, offWord⟩
  rcases on with ⟨onText, onValue, onWord⟩
  have sameBytes : ByteString.ofText onText = ByteString.ofText offText :=
    Option.some.inj (onValue.symm.trans offValue)
  have sameText : some onText = some offText := by
    rw [← ByteString.decode?_eq_some_iff.mpr rfl, sameBytes,
      ByteString.decode?_eq_some_iff.mpr rfl]
  rw [Option.some.inj sameText] at onWord
  have apart : ∀ word ∈ ["always", "ansi", "1"], word ∉ ["never", "plain", "0"] := by decide
  exact apart _ onWord offWord

/-! ## Detection -/

theorem chosen?_of_isOn {lowers : Lowercasing} {sources : ColourSources}
    (on : IsOn lowers sources.choice) : sources.chosen? = some .ansi := by
  unfold chosen?
  rcases chosen : sources.choice with _ | value
  · rw [chosen] at on
    rcases on with ⟨text, impossible, -⟩
    cases impossible
  · rw [chosen] at on
    exact if_pos ((spells_onWords_iff lowers).mpr on)

theorem chosen?_of_isOff {lowers : Lowercasing} {sources : ColourSources}
    (off : IsOff lowers sources.choice) : sources.chosen? = some .plain := by
  have notOn : ¬ IsOn lowers sources.choice := fun on => not_isOff_of_isOn on off
  unfold chosen?
  rcases chosen : sources.choice with _ | value
  · rw [chosen] at off
    rcases off with ⟨text, impossible, -⟩
    cases impossible
  · rw [chosen] at off notOn
    simp only
    rw [if_neg (mt (spells_onWords_iff lowers).mp notOn),
      if_pos ((spells_offWords_iff lowers).mpr off)]

theorem chosen?_of_undecided {lowers : Lowercasing} {sources : ColourSources}
    (notOn : ¬ IsOn lowers sources.choice) (notOff : ¬ IsOff lowers sources.choice) :
    sources.chosen? = none := by
  unfold chosen?
  rcases chosen : sources.choice with _ | value
  · rfl
  · rw [chosen] at notOn notOff
    simp only
    rw [if_neg (mt (spells_onWords_iff lowers).mp notOn),
      if_neg (mt (spells_offWords_iff lowers).mp notOff)]

theorem refusesColour_eq_false_iff {sources : ColourSources} :
    sources.refusesColour = false ↔ sources.noColour = none ∨ sources.noColour = some [] := by
  unfold refusesColour
  rcases sources.noColour with _ | value
  · simp
  · cases value <;> simp

theorem detect_of_chosen? {sources : ColourSources} {mode : ColourMode}
    (chosen : sources.chosen? = some mode) : sources.detect = mode := by
  rw [detect, chosen]

theorem detect_of_undecided {sources : ColourSources} (undecided : sources.chosen? = none) :
    sources.detect = .ansi ↔ sources.refusesColour = false ∧ sources.terminal = true := by
  rw [detect, undecided]
  cases sources.refusesColour <;> cases sources.terminal <;> decide

/-- Diagnostics are coloured exactly if the choice is for colours, or the choice decides nothing,
colour is not refused and diagnostics go to a terminal.  An empty request refuses nothing. -/
theorem detect_eq_ansi_iff (lowers : Lowercasing) (sources : ColourSources) :
    sources.detect = .ansi ↔
      IsOn lowers sources.choice ∨
        (¬ IsOn lowers sources.choice ∧ ¬ IsOff lowers sources.choice) ∧
          (sources.noColour = none ∨ sources.noColour = some []) ∧ sources.terminal = true := by
  by_cases on : IsOn lowers sources.choice
  · rw [detect_of_chosen? (chosen?_of_isOn on)]
    exact iff_of_true rfl (Or.inl on)
  · rw [or_iff_right on]
    by_cases off : IsOff lowers sources.choice
    · rw [detect_of_chosen? (chosen?_of_isOff off)]
      exact iff_of_false (by decide) fun undecided => undecided.1.2 off
    · rw [detect_of_undecided (chosen?_of_undecided on off), refusesColour_eq_false_iff]
      exact (and_iff_right ⟨on, off⟩).symm

end ColourSources

end Assurance
