import Mathlib.Data.List.TakeWhile
import Mathlib.Tactic.SplitIfs
import Scaffolder.PluginKey
import Scaffolder.Proofs.Text.Digits
import Scaffolder.Proofs.Text.Pieces

/-!
# Keys of plugins, written and read

What a valid name and a valid version look like inside a key, and that a key falls apart into the
same name and version again.

* **Names.** A valid name is made of label characters and dots (`isLabelChar_of_validate`), so it
  holds neither a slash nor a blank (`slash_notMem_of_validate`, `isBlank_of_validate`).
* **Versions.** A version with a positive number is read back from its text (`parse?_text`), so two
  such versions with one text are the same (`text_injective`).
* **Keys.** The text of a versioned key is cut into its name and the text of its version
  (`splitKey_text`), and trimming leaves it alone (`trim_text`).
-/

namespace Scaffolder

/-! ## Characters -/

namespace Text

/-- A text without blanks stays as it is when it is trimmed. -/
theorem trimChars_eq_self {cs : List Char} (h : ∀ c ∈ cs, isBlank c = false) :
    trimChars cs = cs := by
  have front : cs.dropWhile isBlank = cs := by
    rw [List.dropWhile_eq_self_iff]
    intro hpos
    rw [h _ (List.getElem_mem hpos)]
    exact Bool.false_ne_true
  have back : cs.reverse.dropWhile isBlank = cs.reverse := by
    rw [List.dropWhile_eq_self_iff]
    intro hpos
    rw [h _ (List.mem_reverse.1 (List.getElem_mem hpos))]
    exact Bool.false_ne_true
  unfold trimChars dropBlankEnd
  rw [front, back, List.reverse_reverse]

/-- No printed ASCII character is blank. -/
theorem isBlank_of_ascii {c : Char} (low : 33 ≤ c.toNat) (high : c.toNat ≤ 126) :
    isBlank c = false := by
  simp only [isBlank, inRanges, blankRanges, List.any_cons, List.any_nil, Bool.or_false,
    Bool.or_eq_false_iff, Bool.and_eq_false_iff, decide_eq_false_iff_not]
  omega

end Text

/-! ## Names -/

namespace PluginName

/-- A character of a name is a dot or stands in one of the labels. -/
theorem mem_labels_of_mem {c : Char} {cs : List Char} (h : c ∈ cs) :
    c = '.' ∨ ∃ label ∈ labels cs, c ∈ label := by
  have joined : ['.'].intercalate (labels cs) = cs := List.intercalate_splitOn '.'
  rw [← joined] at h
  exact (Text.mem_of_mem_intercalate h).imp_left List.mem_singleton.1

/-- A label without a fault is made of label characters. -/
theorem isLabelChar_of_labelFault? {label : List Char} (h : labelFault? label = none) :
    ∀ c ∈ label, isLabelChar c = true := by
  unfold labelFault? at h
  split_ifs at h with _ _ hall
  intro c hc
  simp only [Bool.not_eq_true, Bool.not_eq_false'] at hall
  exact List.all_eq_true.1 hall c hc

/-- A valid name has no fault. -/
theorem validate_eq_ok_iff {name : String} : validate name = .ok () ↔ fault? name = none := by
  unfold validate
  cases fault? name <;> simp

/-- A valid name is not empty. -/
theorem ne_empty_of_validate {name : String} (h : validate name = .ok ()) : name ≠ "" := by
  rintro rfl
  exact absurd (validate_eq_ok_iff.1 h) (by decide)

/-- **A valid name is made of label characters and dots.** -/
theorem isLabelChar_of_validate {name : String} (h : validate name = .ok ()) :
    ∀ c ∈ name.toList, c = '.' ∨ isLabelChar c = true := by
  have hf := validate_eq_ok_iff.1 h
  unfold fault? at hf
  simp only at hf
  split_ifs at hf
  intro c hc
  rcases mem_labels_of_mem hc with hdot | ⟨label, hl, hc⟩
  · exact .inl hdot
  · exact .inr (isLabelChar_of_labelFault? (List.findSome?_eq_none_iff.1 hf label hl) c hc)

/-- The characters of a valid name stand between the hyphen and the last letter, and none is the slash. -/
theorem toNat_of_validate {name : String} (h : validate name = .ok ()) {c : Char}
    (hc : c ∈ name.toList) : 45 ≤ c.toNat ∧ c.toNat ≤ 122 ∧ c.toNat ≠ 47 := by
  rcases isLabelChar_of_validate h c hc with rfl | hl
  · decide
  · unfold isLabelChar at hl
    rcases Bool.or_eq_true_iff.1 hl with hl | hl
    · have := Text.toNat_of_isLowerOrDigit hl
      omega
    · rw [beq_iff_eq.1 hl]
      decide

/-- A valid name has no slash. -/
theorem slash_notMem_of_validate {name : String} (h : validate name = .ok ()) :
    '/' ∉ name.toList := by
  intro hc
  exact (toNat_of_validate h hc).2.2 rfl

/-- A valid name has no blank. -/
theorem isBlank_of_validate {name : String} (h : validate name = .ok ()) :
    ∀ c ∈ name.toList, Text.isBlank c = false := by
  intro c hc
  obtain ⟨low, high, _⟩ := toNat_of_validate h hc
  exact Text.isBlank_of_ascii (by omega) (by omega)

end PluginName

/-! ## Versions -/

/-- A stage has a suffix that starts with a hyphen, or none. -/
theorem Stage.suffix_cases (stage : Stage) :
    stage = .stable ∨ ∃ name, stage.suffix.toList = '-' :: name := by
  cases stage with
  | stable => exact .inl rfl
  | alpha => exact .inr ⟨_, rfl⟩
  | beta => exact .inr ⟨_, rfl⟩

namespace PluginVersion

/-- The characters of a version's text. -/
theorem toList_text (v : PluginVersion) :
    v.text.toList = 'v' :: (Nat.toDigits 10 v.number.toNat ++ v.stage.suffix.toList) := by
  simp [text]

/-- The suffix of a stage is its name behind a hyphen. -/
theorem stageNamed?_eq_some_iff {cs : List Char} {stage : Stage} :
    stageNamed? cs = some stage ↔ stage.suffix.toList = '-' :: cs := by
  have hstable : Stage.stable.suffix.toList = [] := rfl
  have halpha : Stage.alpha.suffix.toList = '-' :: "alpha".toList := rfl
  have hbeta : Stage.beta.suffix.toList = '-' :: "beta".toList := rfl
  unfold stageNamed?
  constructor
  · intro h
    split_ifs at h with hcs hcs
    · rw [← Option.some.inj h, hcs, halpha]
    · rw [← Option.some.inj h, hcs, hbeta]
  · intro h
    cases stage with
    | stable => simp [hstable] at h
    | alpha => simp [← (List.cons.inj (halpha.symm.trans h)).2]
    | beta => simp [← (List.cons.inj (hbeta.symm.trans h)).2]

/-- **Digits and stage** stand side by side, and the digits end at the first hyphen. -/
theorem digitsAndStage?_eq_some_iff {cs digits : List Char} {stage : Stage} :
    digitsAndStage? cs = some (digits, stage) ↔ cs = digits ++ stage.suffix.toList ∧ '-' ∉ digits := by
  unfold digitsAndStage?
  constructor
  · intro h
    rcases hcut : Text.cutAt '-' cs with _ | ⟨front, back⟩
    · rw [hcut] at h
      obtain ⟨rfl, rfl⟩ := Prod.mk.inj (Option.some.inj h)
      exact ⟨(List.append_nil _).symm, Text.cutAt_eq_none_iff.1 hcut⟩
    · rw [hcut] at h
      obtain ⟨st, hstage, hpair⟩ := Option.map_eq_some_iff.1 h
      obtain ⟨rfl, rfl⟩ := Prod.mk.inj hpair
      rw [stageNamed?_eq_some_iff.1 hstage]
      exact Text.cutAt_eq_some_iff.1 hcut
  · rintro ⟨rfl, hdigits⟩
    rcases stage.suffix_cases with rfl | ⟨name, hsuffix⟩
    · simp [Stage.suffix, Text.cutAt_eq_none_iff.2 hdigits]
    · rw [hsuffix, Text.cutAt_eq_some_iff.2 ⟨rfl, hdigits⟩]
      simp [stageNamed?_eq_some_iff.2 hsuffix]

/-- A number that is not zero is positive. -/
theorem toNat_pos_iff {n : UInt64} : 0 < n.toNat ↔ n ≠ 0 := by
  rw [Nat.pos_iff_ne_zero, Ne, Ne, ← UInt64.toNat_inj]
  rfl

/-- **The number of some digits** is positive and fits 64 bits. -/
theorem number?_eq_some_iff {digits : List Char} {n : UInt64} :
    number? digits = some n ↔
      Text.isDigits digits = true ∧ Text.digitsValue digits = n.toNat ∧ n ≠ 0 := by
  unfold number?
  simp only
  constructor
  · intro h
    split_ifs at h with hall
    obtain ⟨hdigits, hvalue, hbound⟩ := hall
    obtain rfl := Option.some.inj h
    have htoNat := UInt64.toNat_ofNat_of_lt' hbound
    exact ⟨hdigits, htoNat.symm, toNat_pos_iff.1 (htoNat.symm ▸ hvalue)⟩
  · rintro ⟨hdigits, hvalue, hne⟩
    have hbound : n.toNat < Nat.pow 2 64 := n.toNat_lt
    rw [hvalue, if_pos ⟨hdigits, toNat_pos_iff.2 hne, hbound⟩, UInt64.ofNat_toNat]

/-- `Writes s digits v`: a text is the letter, some digits and the suffix of a stage, and the digits stand
for the positive number of the version, leading zeros aside. -/
structure Writes (s : String) (digits : List Char) (v : PluginVersion) : Prop where
  /-- The digits are digits. -/
  isDigits : Text.isDigits digits = true
  /-- The text. -/
  toList : s.toList = 'v' :: (digits ++ v.stage.suffix.toList)
  /-- What the digits stand for. -/
  value : Text.digitsValue digits = v.number.toNat
  /-- Zero is no number of a version. -/
  positive : v.number ≠ 0

/-- **What is read as a version** is a text that writes it. -/
theorem parse?_eq_some_iff {s : String} {v : PluginVersion} :
    parse? s = some v ↔ ∃ digits, Writes s digits v := by
  unfold parse? ofChars?
  constructor
  · intro h
    split at h
    · next cs hs =>
      obtain ⟨⟨digits, stage⟩, hparts, h⟩ := Option.bind_eq_some_iff.1 h
      obtain ⟨number, hnumber, h⟩ := Option.bind_eq_some_iff.1 h
      obtain rfl := Option.some.inj h
      obtain ⟨hdigits, hvalue, hpos⟩ := number?_eq_some_iff.1 hnumber
      refine ⟨digits, hdigits, ?_, hvalue, hpos⟩
      rw [hs, (digitsAndStage?_eq_some_iff.1 hparts).1]
    · cases h
  · rintro ⟨digits, hdigits, hs, hvalue, hpos⟩
    have hparts : digitsAndStage? (digits ++ v.stage.suffix.toList) = some (digits, v.stage) :=
      digitsAndStage?_eq_some_iff.2 ⟨rfl, Text.hyphen_notMem_of_isDigits hdigits⟩
    have hnumber := number?_eq_some_iff.2 ⟨hdigits, hvalue, hpos⟩
    rw [hs]
    simp [hparts, hnumber]

/-- A version with a positive number is written by its text. -/
theorem writes_text {v : PluginVersion} (h : v.number ≠ 0) :
    Writes v.text (Nat.toDigits 10 v.number.toNat) v where
  isDigits := Text.isDigits_toDigits _
  toList := toList_text v
  value := Text.digitsValue_toDigits _
  positive := h

/-- **A version with a positive number is read back from its text.** -/
theorem parse?_text {v : PluginVersion} (h : v.number ≠ 0) : parse? v.text = some v :=
  parse?_eq_some_iff.2 ⟨_, writes_text h⟩

/-- Versions with positive numbers are told apart by their texts. -/
theorem text_injective {v w : PluginVersion} (hv : v.number ≠ 0) (hw : w.number ≠ 0)
    (h : v.text = w.text) : v = w := by
  have hread := parse?_text hv
  rw [h, parse?_text hw] at hread
  exact (Option.some.inj hread).symm

/-- The text of a version is not empty. -/
theorem text_ne_empty (v : PluginVersion) : v.text ≠ "" := by
  intro h
  have := toList_text v
  rw [h] at this
  exact absurd this (by simp)

/-- The characters of a version's text stand between the hyphen and the last letter too. -/
theorem toNat_of_mem_text {v : PluginVersion} {c : Char} (hc : c ∈ v.text.toList) :
    45 ≤ c.toNat ∧ c.toNat ≤ 122 := by
  rw [toList_text] at hc
  rcases List.mem_cons.1 hc with rfl | hc
  · decide
  · rcases List.mem_append.1 hc with hc | hc
    · have := Text.toNat_of_isLowerOrDigit (Text.isLowerOrDigit_of_mem_toDigits hc)
      omega
    · have hsuffix : (v.stage.suffix.toList.all fun d => decide (45 ≤ d.toNat ∧ d.toNat ≤ 122)) = true := by
        cases v.stage <;> rfl
      exact of_decide_eq_true (List.all_eq_true.1 hsuffix c hc)

/-- The text of a version has no blank. -/
theorem isBlank_text (v : PluginVersion) : ∀ c ∈ v.text.toList, Text.isBlank c = false := by
  intro c hc
  obtain ⟨low, high⟩ := toNat_of_mem_text hc
  exact Text.isBlank_of_ascii (by omega) (by omega)

end PluginVersion

/-! ## Keys -/

/-- A key is cut at the slash behind a name that has none. -/
theorem splitKey_append {name : String} (h : '/' ∉ name.toList) (version : String) :
    splitKey (name ++ "/" ++ version) = (name, version) := by
  have hcut : Text.cutAt '/' (name ++ "/" ++ version).toList = some (name.toList, version.toList) :=
    Text.cutAt_eq_some_iff.2 ⟨by simp, h⟩
  unfold splitKey
  rw [hcut]
  simp

namespace PluginKey

/-- The text of a versioned key. -/
theorem text_some (name : String) (v : PluginVersion) :
    text ⟨name, some v⟩ = name ++ "/" ++ v.text := rfl

/-- **A versioned key is cut into its name and the text of its version.** -/
theorem splitKey_text {name : String} (h : PluginName.validate name = .ok ()) (v : PluginVersion) :
    splitKey (text ⟨name, some v⟩) = (name, v.text) :=
  splitKey_append (PluginName.slash_notMem_of_validate h) v.text

/-- **Trimming leaves a versioned key alone.** -/
theorem trim_text {name : String} (h : PluginName.validate name = .ok ()) (v : PluginVersion) :
    Text.trim (text ⟨name, some v⟩) = text ⟨name, some v⟩ := by
  have hchars : Text.trimChars (text ⟨name, some v⟩).toList = (text ⟨name, some v⟩).toList := by
    refine Text.trimChars_eq_self fun c hc => ?_
    rw [text_some, String.toList_append, String.toList_append] at hc
    rcases List.mem_append.1 hc with hc | hc
    · rcases List.mem_append.1 hc with hc | hc
      · exact PluginName.isBlank_of_validate h c hc
      · rw [List.mem_singleton.1 hc]
        decide
    · exact v.isBlank_text c hc
  unfold Text.trim
  rw [hchars, String.ofList_toList]

end PluginKey

end Scaffolder
