import Mathlib.Tactic.SplitIfs
import Scaffolder.ProjectVersion
import Scaffolder.Proofs.Text.Digits

/-!
# The grammar of project versions

A version is written in the digits of its major number, and perhaps a stage behind a hyphen.

* **The form** (`ProjectVersion.HasForm`) is said without cutting the text. That the text is cut at its
  first hyphen makes no difference, since digits have none (`hasForm_iff_parts`).
* **Every text** is empty, has the form in some digits, or does not have it. A text of the form is judged by
  its digits alone (`major_of_hasForm`), and any other is malformed (`major_of_formless`).
* **The generations** are told apart by the major number (`isLegacy_iff_major`,
  `supportsLayout_iff_major`).

`major_grammar` says for every text what comes of it.
-/

namespace Scaffolder.ProjectVersion

/-! ## The form of a version -/

/-- What may stand behind the digits of a version: nothing, or a hyphen and a stage, which is a non-empty
run of ASCII lower-case letters and digits. -/
inductive IsStageSuffix : List Char → Prop
  /-- There is no stage. -/
  | absent : IsStageSuffix []
  /-- There is a stage. -/
  | staged {stage : List Char} (nonempty : stage ≠ [])
      (plain : ∀ c ∈ stage, Text.isLowerOrDigit c = true) : IsStageSuffix ('-' :: stage)

/-- `v.HasForm digits`: a version is written in these digits, and perhaps a stage. -/
def HasForm (v : ProjectVersion) (digits : List Char) : Prop :=
  Text.isDigits digits = true ∧ ∃ suffix, IsStageSuffix suffix ∧ v.text.toList = digits ++ suffix

/-- A stage is a text of lower-case letters and digits, and not empty. -/
theorem isStage_iff {cs : List Char} :
    isStage cs = true ↔ cs ≠ [] ∧ ∀ c ∈ cs, Text.isLowerOrDigit c = true := by
  unfold isStage
  simp

/-- Where there is no stage, nothing is wrong with it. -/
theorem any_not_isStage_eq_false_iff {stage : Option (List Char)} :
    (stage.any fun cs => !isStage cs) = false ↔ ∀ cs ∈ stage, isStage cs = true := by
  rcases stage with _ | cs
  · simp
  · simp

/-- **The form is that of the parts** between which the text is cut at its first hyphen. -/
theorem hasForm_iff_parts {v : ProjectVersion} {digits : List Char} :
    v.HasForm digits ↔ Text.isDigits digits = true ∧
      ∃ stage, parts v.text.toList = (digits, stage) ∧ ∀ cs ∈ stage, isStage cs = true := by
  unfold HasForm parts
  constructor
  · rintro ⟨hdigits, suffix, hsuffix, htext⟩
    have hhyphen := Text.hyphen_notMem_of_isDigits hdigits
    refine ⟨hdigits, ?_⟩
    cases hsuffix with
    | absent =>
      rw [htext, List.append_nil, Text.cutAt_eq_none_iff.2 hhyphen]
      exact ⟨none, rfl, by simp⟩
    | staged nonempty plain =>
      rw [htext, Text.cutAt_eq_some_iff.2 ⟨rfl, hhyphen⟩]
      exact ⟨some _, rfl, by simpa using isStage_iff.2 ⟨nonempty, plain⟩⟩
  · rintro ⟨hdigits, stage, hparts, hstage⟩
    refine ⟨hdigits, ?_⟩
    rcases hcut : Text.cutAt '-' v.text.toList with _ | ⟨front, back⟩
    · rw [hcut] at hparts
      obtain ⟨rfl, -⟩ := Prod.mk.inj hparts
      exact ⟨[], .absent, (List.append_nil _).symm⟩
    · rw [hcut] at hparts
      obtain ⟨rfl, rfl⟩ := Prod.mk.inj hparts
      obtain ⟨nonempty, plain⟩ := isStage_iff.1 (hstage back rfl)
      exact ⟨'-' :: back, .staged nonempty plain, (Text.cutAt_eq_some_iff.1 hcut).1⟩

/-! ## What comes of a text -/

/-- **A text of the form** is judged by its digits: they must not start with a zero, and their number
must lie below the bound. -/
theorem major_of_hasForm {v : ProjectVersion} {digits : List Char} (h : v.HasForm digits) :
    v.major =
      if digits.head? = some '0' then .error (.invalidMajor v.text)
      else if Text.digitsValue digits < majorBound then .ok (Text.digitsValue digits)
      else .error (.invalidMajor v.text) := by
  obtain ⟨hdigits, stage, hparts, hstage⟩ := hasForm_iff_parts.1 h
  obtain ⟨-, suffix, -, htext⟩ := h
  have nonempty : v.text.toList.isEmpty = false := by
    rw [htext]
    simp [(Text.isDigits_iff.1 hdigits).1]
  have hany := any_not_isStage_eq_false_iff.2 hstage
  unfold major
  simp only [nonempty, hparts, hany, hdigits, Bool.false_eq_true, Bool.not_true, ↓reduceIte]

/-- **Any other text** is malformed, unless it is empty. -/
theorem major_of_formless {v : ProjectVersion} (nonempty : v.text ≠ "")
    (formless : ∀ digits, ¬ v.HasForm digits) : v.major = .error (.malformed v.text) := by
  rcases hparts : parts v.text.toList with ⟨digits, stage⟩
  unfold major
  simp only [hparts]
  split_ifs with hempty hstage hdigits hzero hbound
  · simp [nonempty] at hempty
  · rfl
  · rfl
  -- in the other cases the text would have the form
  all_goals
    exfalso
    apply formless digits
    apply hasForm_iff_parts.2
    rw [Bool.not_eq_true] at hstage
    exact ⟨by simpa using hdigits, stage, hparts, any_not_isStage_eq_false_iff.1 hstage⟩

/-- A text without characters is refused as empty. -/
theorem major_of_empty {v : ProjectVersion} (h : v.text = "") : v.major = .error .empty := by
  unfold major
  simp [h]

/-- `v.Amounts x`: what the grammar makes of a version, a major number or the reason why it has none. -/
inductive Amounts (v : ProjectVersion) : Except VersionError Nat → Prop
  /-- Nothing is written. -/
  | empty (h : v.text = "") : Amounts v (.error .empty)
  /-- A major number is written without leading zeros, and perhaps a stage. -/
  | number {n : Nat} {suffix : List Char} (positive : 1 ≤ n) (bounded : n < Nat.pow 2 32)
      (stage : IsStageSuffix suffix) (text : v.text.toList = Nat.toDigits 10 n ++ suffix) :
      Amounts v (.ok n)
  /-- The text has the form, but its digits are not those of a major number. -/
  | invalidMajor {digits : List Char} (form : v.HasForm digits)
      (invalid : digits.head? = some '0' ∨ Nat.pow 2 32 ≤ Text.digitsValue digits) :
      Amounts v (.error (.invalidMajor v.text))
  /-- The text does not have the form. -/
  | malformed (nonempty : v.text ≠ "") (formless : ∀ digits, ¬ v.HasForm digits) :
      Amounts v (.error (.malformed v.text))

/-- **Every text comes to what is said of it.** -/
theorem amounts_major (v : ProjectVersion) : v.Amounts v.major := by
  by_cases hempty : v.text = ""
  · rw [major_of_empty hempty]
    exact .empty hempty
  · by_cases hform : ∃ digits, v.HasForm digits
    · obtain ⟨digits, hform⟩ := hform
      rw [major_of_hasForm hform]
      split_ifs with hzero hvalue
      · exact .invalidMajor hform (.inl hzero)
      · obtain ⟨hdigits, suffix, hsuffix, htext⟩ := hform
        have hwritten := Text.toDigits_digitsValue hdigits hzero
        have hpos : Text.digitsValue digits ≠ 0 := by
          intro hnone
          rw [hnone, Nat.toDigits_zero] at hwritten
          exact hzero (congrArg List.head? hwritten).symm
        apply Amounts.number (Nat.one_le_iff_ne_zero.2 hpos) hvalue hsuffix
        rw [hwritten, htext]
      · exact .invalidMajor hform (.inr (Nat.le_of_not_lt hvalue))
    · have formless : ∀ digits, ¬ v.HasForm digits := fun digits h => hform ⟨digits, h⟩
      rw [major_of_formless hempty formless]
      exact .malformed hempty formless

/-- **What comes of a version is what the grammar makes of it.** -/
theorem major_eq_iff {v : ProjectVersion} {x : Except VersionError Nat} :
    v.major = x ↔ v.Amounts x := by
  constructor
  · rintro rfl
    exact v.amounts_major
  · intro h
    cases h with
    | empty hempty => exact major_of_empty hempty
    | @number n suffix positive bounded stage text =>
      have hform : v.HasForm (Nat.toDigits 10 n) := ⟨Text.isDigits_toDigits n, suffix, stage, text⟩
      rw [major_of_hasForm hform, if_neg (Text.head?_toDigits positive), Text.digitsValue_toDigits,
        if_pos (show n < majorBound from bounded)]
    | @invalidMajor digits form invalid =>
      rw [major_of_hasForm form]
      rcases invalid with hzero | hlarge
      · rw [if_pos hzero]
      · rw [if_neg (show ¬ Text.digitsValue digits < majorBound from Nat.not_lt_of_le hlarge), ite_self]
    | malformed nonempty formless => exact major_of_formless nonempty formless

section

variable {v : ProjectVersion}

/-- **When there is a number:** the text is written with it, without leading zeros, and a stage may
follow. -/
theorem major_eq_ok_iff {n : Nat} :
    v.major = .ok n ↔ 1 ≤ n ∧ n < Nat.pow 2 32 ∧
      ∃ suffix, IsStageSuffix suffix ∧ v.text.toList = Nat.toDigits 10 n ++ suffix := by
  rw [major_eq_iff]
  constructor
  · rintro (_ | ⟨positive, bounded, stage, text⟩)
    exact ⟨positive, bounded, _, stage, text⟩
  · rintro ⟨positive, bounded, suffix, stage, text⟩
    exact .number positive bounded stage text

/-- When a text is refused as empty. -/
theorem major_eq_empty_iff : v.major = .error .empty ↔ v.text = "" := by
  rw [major_eq_iff]
  constructor
  · rintro ⟨h⟩
    exact h
  · exact .empty

/-- **When a number is refused:** the form is right, but there is a leading zero or no room. -/
theorem major_eq_invalidMajor_iff {text : String} :
    v.major = .error (.invalidMajor text) ↔ text = v.text ∧
      ∃ digits, v.HasForm digits ∧
        (digits.head? = some '0' ∨ Nat.pow 2 32 ≤ Text.digitsValue digits) := by
  rw [major_eq_iff]
  constructor
  · rintro ⟨⟩
    exact ⟨rfl, _, ‹_›, ‹_›⟩
  · rintro ⟨rfl, digits, form, invalid⟩
    exact .invalidMajor form invalid

/-- When a text is refused for its form. -/
theorem major_eq_malformed_iff {text : String} :
    v.major = .error (.malformed text) ↔
      text = v.text ∧ v.text ≠ "" ∧ ∀ digits, ¬ v.HasForm digits := by
  rw [major_eq_iff]
  constructor
  · rintro ⟨⟩
    exact ⟨rfl, ‹_›, ‹_›⟩
  · rintro ⟨rfl, nonempty, formless⟩
    exact .malformed nonempty formless

/-! ## The generations -/

/-- The first generation is that of the number one. -/
theorem isLegacy_iff_major : v.isLegacy = true ↔ v.major = .ok 1 := by
  unfold isLegacy
  rcases v.major with e | n
  · simp
  · simp [legacyMajor]

/-- Layouts are there from the third generation on. -/
theorem supportsLayout_iff_major : v.supportsLayout = true ↔ ∃ n, v.major = .ok n ∧ 3 ≤ n := by
  unfold supportsLayout
  rcases v.major with e | n
  · simp
  · simp only [decide_eq_true_eq]
    simp [layoutMajor]

/-- **The major number tells the generation:** the first is no longer supported, and the second has no
layouts yet. -/
theorem generation_of_major {n : Nat} (h : v.major = .ok n) :
    (v.isLegacy = true ↔ n = 1) ∧ (v.supportsLayout = true ↔ 3 ≤ n) := by
  rw [isLegacy_iff_major, supportsLayout_iff_major, h]
  simp

/-- A version with layouts is not of the first generation. -/
theorem isLegacy_of_supportsLayout (h : v.supportsLayout = true) : v.isLegacy = false := by
  obtain ⟨n, hmajor, hlayout⟩ := supportsLayout_iff_major.1 h
  rw [Bool.eq_false_iff, Ne, (generation_of_major hmajor).1]
  omega

/-- **A text without a major number** is of no generation. -/
theorem no_generation_of_error {e : VersionError} (h : v.major = .error e) :
    v.isLegacy = false ∧ v.supportsLayout = false := by
  rw [Bool.eq_false_iff, Bool.eq_false_iff, Ne, Ne, isLegacy_iff_major, supportsLayout_iff_major, h]
  simp

end

/-! ## Main result -/

/-- **What is read from every text.**

1. A version has the major number `n` exactly if it is `n` from 1 to 2^32 - 1 in decimal digits without
   leading zero, and perhaps a hyphen and a non-empty run of ASCII lower-case letters and digits.
2. It is refused as empty exactly if it is the empty text.
3. It is refused for its major number exactly if it has that form, but its digits start with a zero or stand
   for more than 2^32 - 1.
4. It is malformed in every other case, that is if it is not empty and does not have that form.
5. A version with a major number is of the first generation, or of the second, or has layouts: exactly one of
   the three, and by its number.
6. Any other text is neither of the first generation nor has layouts. -/
theorem major_grammar (v : ProjectVersion) :
    (∀ n, v.major = .ok n ↔ 1 ≤ n ∧ n < Nat.pow 2 32 ∧
      ∃ suffix, IsStageSuffix suffix ∧ v.text.toList = Nat.toDigits 10 n ++ suffix) ∧
    (v.major = .error .empty ↔ v.text = "") ∧
    (∀ text, v.major = .error (.invalidMajor text) ↔ text = v.text ∧
      ∃ digits, v.HasForm digits ∧
        (digits.head? = some '0' ∨ Nat.pow 2 32 ≤ Text.digitsValue digits)) ∧
    (∀ text, v.major = .error (.malformed text) ↔
      text = v.text ∧ v.text ≠ "" ∧ ∀ digits, ¬ v.HasForm digits) ∧
    (∀ n, v.major = .ok n →
      (n = 1 ∧ v.isLegacy = true ∧ v.supportsLayout = false) ∨
        (n = 2 ∧ v.isLegacy = false ∧ v.supportsLayout = false) ∨
          (3 ≤ n ∧ v.isLegacy = false ∧ v.supportsLayout = true)) ∧
    (∀ e, v.major = .error e → v.isLegacy = false ∧ v.supportsLayout = false) := by
  refine ⟨fun n => major_eq_ok_iff, major_eq_empty_iff, fun text => major_eq_invalidMajor_iff,
    fun text => major_eq_malformed_iff, ?_, fun e => no_generation_of_error⟩
  intro n hmajor
  have hpos : 1 ≤ n := (major_eq_ok_iff.1 hmajor).1
  obtain ⟨hlegacy, hlayout⟩ := generation_of_major hmajor
  rw [Bool.eq_false_iff, Bool.eq_false_iff, Ne, Ne, hlegacy, hlayout]
  omega

/-- The largest major number, with a stage that has a digit, and the next number. -/
theorem major_grammar_largest :
    let v : ProjectVersion := ⟨"4294967295-rc1"⟩
    let w : ProjectVersion := ⟨"4294967296"⟩
    v.major = .ok 4294967295 ∧ v.isLegacy = false ∧ v.supportsLayout = true ∧
      w.major = .error (.invalidMajor w.text) ∧ w.isLegacy = false ∧ w.supportsLayout = false := by
  intro v w
  obtain ⟨numbers, -, -, -, generations, -⟩ := major_grammar v
  obtain ⟨-, -, invalid, -, -, none⟩ := major_grammar w
  have hv : v.major = .ok 4294967295 := by
    apply (numbers _).2
    refine ⟨by omega, by decide, '-' :: ['r', 'c', '1'], ?_, by decide⟩
    exact .staged (by simp) (by simp [Text.isLowerOrDigit])
  have hw : w.major = .error (.invalidMajor w.text) := by
    apply (invalid _).2
    exact ⟨rfl, w.text.toList, ⟨by decide, [], .absent, by simp⟩, .inr (by decide)⟩
  have hgeneration : v.isLegacy = false ∧ v.supportsLayout = true := by
    simpa using generations _ hv
  exact ⟨hv, hgeneration.1, hgeneration.2, hw, none _ hw⟩

end Scaffolder.ProjectVersion
