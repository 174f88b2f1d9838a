import Assurance.Level.Resolution

namespace Assurance
namespace Level

/-!
# Precedence of the choice over the features

A choice that is text decides alone.  It is the digit of a level with blanks
around it or the build fails with what is left of it, and no feature is looked
at in either case.

A choice that is not text is passed over without a word: the features decide, as
they do where there is no choice.  A feature whose variable is not text counts
as switched off.

Main statement: `told_by_precedence`.
-/

/-- The digit that stands for a level. -/
def digit : Level → Char
  | disabled => '0'
  | default => '1'
  | audit => '2'

/-- What a build is told where its level is the one of a digit. -/
def announcement (digit : Char) : List String :=
  ["cargo:rerun-if-env-changed=GUARDRAIL_BUILD_LEVEL", "cargo:rerun-if-changed=build.rs",
   "cargo:rustc-env=GUARDRAIL_EFFECTIVE_BUILD_LEVEL=" ++ String.singleton digit]

/-- What a build is told in an environment, unless its choice is bad. -/
def told (environment : Environment) : Except BadChoice (List String) :=
  (resolve environment).map directives

/-- A variable is set, to the bytes of a text. -/
def IsText (value : Option ByteString) : Prop :=
  ∃ text, value = some (ByteString.ofText text)

theorem directives_eq (level : Level) : directives level = announcement (digit level) := by
  cases level <;> decide +kernel

theorem isBlank_digit (level : Level) : Text.isBlank (digit level) = false := by
  cases level <;> decide

theorem trim_eq_digit_iff {text : List Char} {level : Level} :
    Text.trim text = [digit level] ↔ Text.Padded text [digit level] := by
  have solid : ∀ char, some (digit level) = some char → Text.isBlank char = false := by
    rintro char same
    rw [← Option.some.inj same]
    exact isBlank_digit level
  exact Text.trim_eq_iff solid solid

theorem ofChoice_eq_ok_iff {trimmed : List Char} {level : Level} :
    ofChoice trimmed = .ok level ↔ trimmed = [digit level] := by
  constructor
  · intro chosen
    unfold ofChoice at chosen
    split at chosen <;> cases chosen <;> rfl
  · rintro rfl
    cases level <;> rfl

theorem ofChoice_eq_error {trimmed : List Char} (other : ∀ level, trimmed ≠ [digit level]) :
    ofChoice trimmed = .error ⟨trimmed⟩ := by
  unfold ofChoice
  split
  · exact absurd rfl (other disabled)
  · exact absurd rfl (other default)
  · exact absurd rfl (other audit)
  · rfl

theorem textOf?_eq_some_iff {value : Option ByteString} {text : String} :
    textOf? value = some text ↔ value = some (ByteString.ofText text) := by
  cases value with
  | none => exact ⟨nofun, nofun⟩
  | some bytes =>
      rw [textOf?, Option.bind_some, ByteString.decode?_eq_some_iff, Option.some.injEq]

theorem textOf?_eq_none_iff {value : Option ByteString} :
    textOf? value = none ↔ ¬ IsText value := by
  rw [Option.eq_none_iff_forall_ne_some, IsText, not_exists]
  exact forall_congr' fun text => not_congr textOf?_eq_some_iff

theorem isSome_textOf?_iff {value : Option ByteString} :
    (textOf? value).isSome = true ↔ IsText value := by
  rw [Option.isSome_iff_exists]
  exact exists_congr fun text => textOf?_eq_some_iff

theorem told_of_text {environment : Environment} {text : String}
    (chosen : environment.choice = some (ByteString.ofText text)) :
    told environment = (ofChoice (Text.trim text.toList)).map directives := by
  rw [told, resolve, textOf?_eq_some_iff.mpr chosen]

theorem told_of_no_text {environment : Environment} (unread : ¬ IsText environment.choice) :
    told environment = .ok (announcement (digit (ofFeatures environment))) := by
  rw [told, resolve, textOf?_eq_none_iff.mpr unread, ← directives_eq]
  rfl

/-- A choice that is text is told as a level if it is the digit of that level with blanks around it;
every other text fails the build, with the text without its blanks.  The features make no difference
to it.  Without a choice that is text the level is the one that the features ask for: the audit
feature first, the contracts feature next, and none of the checks otherwise. -/
theorem told_by_precedence (environment : Environment) :
    (∀ text, environment.choice = some (ByteString.ofText text) →
      (∀ lines, told environment = .ok lines ↔
        ∃ level, Text.Padded text.toList [digit level] ∧ lines = announcement (digit level)) ∧
      ((∀ level, ¬ Text.Padded text.toList [digit level]) →
        told environment = .error ⟨Text.trim text.toList⟩) ∧
      ∀ audit contracts, told { environment with audit, contracts } = told environment) ∧
    (¬ IsText environment.choice →
      (IsText environment.audit → told environment = .ok (announcement '2')) ∧
      (¬ IsText environment.audit → IsText environment.contracts →
        told environment = .ok (announcement '1')) ∧
      (¬ IsText environment.audit → ¬ IsText environment.contracts →
        told environment = .ok (announcement '0'))) := by
  refine ⟨?_, ?_⟩
  · intro text chosen
    refine ⟨?_, ?_, ?_⟩
    · intro lines
      rw [told_of_text chosen]
      constructor
      · intro accepted
        cases decided : ofChoice (Text.trim text.toList) with
        | error bad =>
            rw [decided] at accepted
            cases accepted
        | ok level =>
            rw [decided] at accepted
            cases accepted
            exact ⟨level, trim_eq_digit_iff.mp (ofChoice_eq_ok_iff.mp decided),
              directives_eq level⟩
      · rintro ⟨level, padded, rfl⟩
        rw [ofChoice_eq_ok_iff.mpr (trim_eq_digit_iff.mpr padded), ← directives_eq]
        rfl
    · intro other
      have rejected : ofChoice (Text.trim text.toList) = .error ⟨Text.trim text.toList⟩ :=
        ofChoice_eq_error fun level same => other level (trim_eq_digit_iff.mp same)
      rw [told_of_text chosen, rejected]
      rfl
    · intro audit contracts
      have other : told { environment with audit, contracts } =
          (ofChoice (Text.trim text.toList)).map directives := told_of_text chosen
      rw [other, told_of_text chosen]
  · intro unread
    rw [told_of_no_text unread, ofFeatures]
    refine ⟨?_, ?_, ?_⟩
    · intro audits
      rw [if_pos (isSome_textOf?_iff.mpr audits)]
      rfl
    · intro unaudited contracted
      rw [if_neg (mt isSome_textOf?_iff.mp unaudited), if_pos (isSome_textOf?_iff.mpr contracted)]
      rfl
    · intro unaudited uncontracted
      rw [if_neg (mt isSome_textOf?_iff.mp unaudited),
        if_neg (mt isSome_textOf?_iff.mp uncontracted)]
      rfl

/-- A digit between blanks, against a feature that asks for more. -/
theorem told_padded_choice :
    told ⟨some (ByteString.ofText " 1\n"), some (ByteString.ofText "1"), none⟩ =
      .ok (announcement '1') := by
  have blank : ∀ char ∈ [' ', '\n'], Text.isBlank char = true :=
    List.forall_mem_cons.mpr ⟨by decide, List.forall_mem_singleton.mpr (by decide)⟩
  have padded : Text.Padded " 1\n".toList [digit default] :=
    ⟨[' '], ['\n'], by decide +kernel, blank⟩
  exact (((told_by_precedence ⟨some (ByteString.ofText " 1\n"), some (ByteString.ofText "1"),
    none⟩).1 " 1\n" rfl).1 _).mpr ⟨default, padded, rfl⟩

/-- A choice of one byte that no text has: it is set and is not the digit of a level, and still the
build does not fail but takes the level of the features. -/
theorem told_unreadable_choice :
    let choice : ByteString := [0xFF]
    (∀ text, choice ≠ ByteString.ofText text) ∧
      told ⟨some choice, none, none⟩ = .ok (announcement '0') ∧
      told ⟨some choice, none, some (ByteString.ofText "1")⟩ = .ok (announcement '1') := by
  intro choice
  have unread : ¬ IsText (some choice) := textOf?_eq_none_iff.mp (by decide +kernel)
  refine ⟨fun text same => unread ⟨text, congrArg some same⟩, ?_, ?_⟩
  · exact told_of_no_text unread
  · have asked : ofFeatures ⟨some choice, none, some (ByteString.ofText "1")⟩ = default := by
      decide +kernel
    rw [told_of_no_text unread, asked]
    rfl

end Level
end Assurance
