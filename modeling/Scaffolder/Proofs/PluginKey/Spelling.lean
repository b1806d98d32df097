import Scaffolder.Proofs.PluginKey

/-!
# Spellings of a key

A plugin key has one text, but can be spelled in other ways too: with blanks around it, with a slash
behind a bare name, or with leading zeros in the number of its version.

* **Versions** (`PluginVersion.text_eq_iff`): a text that is read as a version is the text of that
  version, unless its number is padded with zeros (`PluginVersion.isPadded`).
* **Keys** (`PluginKey.Spells`): what a text spells, told by its parts. The text of a key that can be
  written (`PluginKey.Proper`) spells it, and what is spelled is proper.
* **Reading** (`PluginKey.ofParts_eq_ok_iff`): the parts of a text make what it spells, so a text is read as
  what it spells without the blanks around it.

`key_round_trip` puts writing and reading side by side.
-/

namespace Scaffolder

/-! ## Versions -/

namespace PluginVersion

/-- Whether the number of a version is written with a leading zero. -/
def isPadded (s : String) : Bool := s.toList.tail.head? == some '0'

/-- A version is padded if its digits start with a zero. -/
theorem Writes.isPadded_eq {s : String} {digits : List Char} {v : PluginVersion}
    (h : Writes s digits v) : isPadded s = (digits.head? == some '0') := by
  have hne : digits ≠ [] := (Text.isDigits_iff.1 h.isDigits).1
  obtain ⟨c, cs, rfl⟩ := List.exists_cons_of_ne_nil hne
  unfold isPadded
  rw [h.toList]
  rfl

/-- **A text that is read as a version is the text of that version** unless its number is padded. -/
theorem text_eq_iff {s : String} {v : PluginVersion} (h : parse? s = some v) :
    v.text = s ↔ isPadded s = false := by
  obtain ⟨digits, written⟩ := parse?_eq_some_iff.1 h
  constructor
  · rintro rfl
    rw [(writes_text written.positive).isPadded_eq, beq_eq_false_iff_ne]
    exact Text.head?_toDigits (toNat_pos_iff.2 written.positive)
  · intro unpadded
    rw [written.isPadded_eq, beq_eq_false_iff_ne] at unpadded
    rw [← String.toList_inj, toList_text, written.toList, ← written.value,
      Text.toDigits_digitsValue written.isDigits unpadded]

/-- A version is parsed if it can be read at all. -/
theorem parse_eq_ok_iff {s : String} {v : PluginVersion} : parse s = .ok v ↔ parse? s = some v := by
  unfold parse
  rcases parse? s with _ | w
  · simp
  · simp

/-- A spelling is cut into its digits and its stage. -/
theorem Writes.digitsAndStage?_eq {s : String} {digits : List Char} {v : PluginVersion}
    (h : Writes s digits v) : digitsAndStage? s.toList.tail = some (digits, v.stage) := by
  rw [h.toList]
  exact digitsAndStage?_eq_some_iff.2 ⟨rfl, Text.hyphen_notMem_of_isDigits h.isDigits⟩

/-- The text of a version is cut into its number and its stage. -/
theorem digitsAndStage?_text (v : PluginVersion) :
    digitsAndStage? v.text.toList.tail = some (Nat.toDigits 10 v.number.toNat, v.stage) := by
  rw [toList_text]
  apply digitsAndStage?_eq_some_iff.2
  exact ⟨rfl, Text.hyphen_notMem_of_isDigits (Text.isDigits_toDigits v.number.toNat)⟩

/-- A version whose text is read as a version is that one. -/
theorem eq_of_parse?_text {v w : PluginVersion} (h : parse? v.text = some w) : w = v := by
  obtain ⟨digits, written⟩ := parse?_eq_some_iff.1 h
  have hparts := written.digitsAndStage?_eq
  rw [digitsAndStage?_text, Option.some.injEq, Prod.mk.injEq] at hparts
  obtain ⟨rfl, hstage⟩ := hparts
  have hnumber : w.number = v.number := by
    apply UInt64.toNat_inj.1
    rw [← written.value, Text.digitsValue_toDigits]
  obtain ⟨number, stage⟩ := w
  obtain rfl : number = v.number := hnumber
  obtain rfl : v.stage = stage := hstage
  rfl

/-- No version has a padded text. -/
theorem text_ne_of_padded {s : String} {w : PluginVersion} (h : parse? s = some w)
    (padded : isPadded s = true) (v : PluginVersion) : v.text ≠ s := by
  rintro rfl
  obtain rfl := eq_of_parse?_text h
  rw [(text_eq_iff h).1 rfl] at padded
  simp at padded

end PluginVersion

/-! ## Cutting -/

/-- A text without a slash is a name alone. -/
theorem splitKey_of_noSlash {name : String} (h : '/' ∉ name.toList) : splitKey name = (name, "") := by
  unfold splitKey
  rw [Text.cutAt_eq_none_iff.2 h]

/-- A text with a slash is put together from the parts that it is cut into. -/
theorem eq_append_of_slash {key : String} (h : '/' ∈ key.toList) :
    key = (splitKey key).1 ++ "/" ++ (splitKey key).2 := by
  unfold splitKey
  rcases hcut : Text.cutAt '/' key.toList with _ | ⟨name, version⟩
  · exact absurd h (Text.cutAt_eq_none_iff.1 hcut)
  · rw [← String.toList_inj, (Text.cutAt_eq_some_iff.1 hcut).1]
    simp

/-! ## Keys -/

/-- Whether a key can be written so that it can be read: a plugin may have its name, and the number of
its version is positive if it has a version. -/
structure PluginKey.Proper (k : PluginKey) : Prop where
  /-- The name is one that a plugin may have. -/
  name : PluginName.validate k.name = .ok ()
  /-- The number of the version is one from 1 to 2^64 - 1. -/
  version : ∀ v, k.version = some v → v.number ≠ 0

/-- Whether a text without blanks around it spells a plugin key. -/
structure PluginKey.Spells (key : String) (k : PluginKey) : Prop where
  /-- The name is one that a plugin may have. -/
  valid : PluginName.validate k.name = .ok ()
  /-- The name is spelled as it is. -/
  name : (splitKey key).1 = k.name
  /-- The version part is empty, or read as the version. -/
  version : ((splitKey key).2 = "" ∧ k.version = none) ∨
    ∃ v, k.version = some v ∧ PluginVersion.parse? (splitKey key).2 = some v

namespace PluginKey

/-- The text of a bare key is its name. -/
theorem text_none (name : String) : text ⟨name, none⟩ = name := rfl

namespace Proper

variable {k : PluginKey}

/-- **The text of a key spells it.** -/
theorem spells_text (h : k.Proper) : Spells k.text k := by
  obtain ⟨name, version⟩ := k
  obtain ⟨valid, hversion⟩ := h
  rcases version with _ | v
  · have hbare := splitKey_of_noSlash (PluginName.slash_notMem_of_validate valid)
    rw [text_none]
    exact ⟨valid, by rw [hbare], .inl ⟨by rw [hbare], rfl⟩⟩
  · have hsplit := PluginKey.splitKey_text valid v
    have hagain := PluginVersion.parse?_text (hversion v rfl)
    exact ⟨valid, by rw [hsplit], .inr ⟨v, rfl, by rw [hsplit, hagain]⟩⟩

/-- Trimming leaves the text of a key alone. -/
theorem trim_text (h : k.Proper) : Text.trim k.text = k.text := by
  obtain ⟨name, version⟩ := k
  rcases version with _ | v
  · have hblank := Text.trimChars_eq_self (PluginName.isBlank_of_validate h.name)
    rw [text_none]
    unfold Text.trim
    rw [hblank, String.ofList_toList]
  · exact PluginKey.trim_text h.name v

end Proper

namespace Spells

variable {key : String} {k : PluginKey}

/-- What is spelled can be written. -/
theorem proper (h : Spells key k) : k.Proper where
  name := h.valid
  version := by
    intro v hv
    rcases h.version with ⟨-, hnone⟩ | ⟨w, hw, hparse⟩
    · simp [hnone] at hv
    · obtain rfl : w = v := Option.some.inj (hw.symm.trans hv)
      obtain ⟨digits, written⟩ := PluginVersion.parse?_eq_some_iff.1 hparse
      exact written.positive

/-- A key that is not padded is cut into the same parts as its text. -/
theorem splitKey_text (h : Spells key k)
    (unpadded : PluginVersion.isPadded (splitKey key).2 = false) :
    splitKey k.text = splitKey key := by
  obtain ⟨name, version⟩ := k
  have hname : (splitKey key).1 = name := h.name
  apply Prod.ext
  · rw [hname]
    exact h.proper.spells_text.name
  · rcases h.version with ⟨hempty, rfl⟩ | ⟨v, rfl, hparse⟩
    · rw [hempty]
      exact congrArg Prod.snd (splitKey_of_noSlash (PluginName.slash_notMem_of_validate h.valid))
    · rw [PluginKey.splitKey_text h.valid v]
      exact (PluginVersion.text_eq_iff hparse).2 unpadded

/-- **When a spelling is the text of its key:** no slash stands behind a bare name, and the number of the
version is not padded. -/
theorem text_eq_iff (h : Spells key k) :
    k.text = key ↔ ('/' ∈ key.toList → (splitKey key).2 ≠ "") ∧
      PluginVersion.isPadded (splitKey key).2 = false := by
  obtain ⟨name, version⟩ := k
  by_cases hslash : '/' ∈ key.toList
  · have hname : (splitKey key).1 = name := h.name
    have hkey : key = name ++ "/" ++ (splitKey key).2 := by
      rw [← hname]
      exact eq_append_of_slash hslash
    rcases h.version with ⟨hempty, rfl⟩ | ⟨v, rfl, hparse⟩
    · have hne : name ≠ key := by
        rintro rfl
        exact PluginName.slash_notMem_of_validate h.valid hslash
      simp [text_none, hne, hslash, hempty]
    · have hversion : (splitKey key).2 ≠ "" := by
        intro hempty
        rw [hempty] at hparse
        cases hparse
      constructor
      · intro htext
        have hsplit := PluginKey.splitKey_text h.valid v
        rw [htext] at hsplit
        have hown : v.text = (splitKey key).2 := (congrArg Prod.snd hsplit).symm
        exact ⟨fun _ => hversion, (PluginVersion.text_eq_iff hparse).1 hown⟩
      · rintro ⟨-, unpadded⟩
        rw [text_some, (PluginVersion.text_eq_iff hparse).2 unpadded, ← hkey]
  · have hparts := splitKey_of_noSlash hslash
    have hname : key = name := by
      simpa [hparts] using h.name
    rcases h.version with ⟨-, rfl⟩ | ⟨v, rfl, hparse⟩
    · simp [text_none, hname ▸ hslash, hname, hname ▸ hparts, PluginVersion.isPadded]
    · rw [hparts] at hparse
      cases hparse

end Spells

/-! ## Reading -/

/-- The key that a name and a version part make, or the first fault of the two. -/
def ofParts (name version : String) : Except KeyError PluginKey :=
  if name = "" then .error .emptyKey
  else
    match PluginName.fault? name with
    | some fault => .error (.invalidName name fault)
    | none =>
        if version = "" then .ok ⟨name, none⟩
        else
          match PluginVersion.parse? version with
          | some v => .ok ⟨name, some v⟩
          | none => .error (.invalidVersion version)

/-- A text is read by its parts. -/
theorem parse_eq_ofParts (t : String) :
    parse t = ofParts (splitKey (Text.trim t)).1 (splitKey (Text.trim t)).2 := by
  rcases hsplit : splitKey (Text.trim t) with ⟨name, version⟩
  unfold parse ofParts PluginName.validate PluginVersion.parse
  rw [hsplit]
  simp only [String.isEmpty_iff]
  by_cases hname : name = ""
  · simp only [hname, ↓reduceIte]
    rfl
  · simp only [hname, ↓reduceIte]
    rcases PluginName.fault? name with _ | fault
    · by_cases hversion : version = ""
      · simp only [hversion, ↓reduceIte]
        rfl
      · simp only [hversion, ↓reduceIte]
        rcases PluginVersion.parse? version with _ | v
        · rfl
        · rfl
    · rfl

/-- **The parts of a text make what it spells.** -/
theorem ofParts_eq_ok_iff {key : String} {k : PluginKey} :
    ofParts (splitKey key).1 (splitKey key).2 = .ok k ↔ Spells key k := by
  rcases hsplit : splitKey key with ⟨name, version⟩
  unfold ofParts
  constructor
  · intro h
    by_cases hname : name = ""
    · simp [hname] at h
    · rcases hfault : PluginName.fault? name with _ | fault
      · have valid := PluginName.validate_eq_ok_iff.2 hfault
        by_cases hversion : version = ""
        · simp only [hname, hfault, hversion, ↓reduceIte] at h
          obtain rfl := Except.ok.inj h
          exact ⟨valid, by rw [hsplit], .inl ⟨by rw [hsplit, hversion], rfl⟩⟩
        · rcases hparse : PluginVersion.parse? version with _ | v
          · simp [hname, hfault, hversion, hparse] at h
          · simp only [hname, hfault, hversion, hparse, ↓reduceIte] at h
            obtain rfl := Except.ok.inj h
            exact ⟨valid, by rw [hsplit], .inr ⟨v, rfl, by rw [hsplit, hparse]⟩⟩
      · simp [hname, hfault] at h
  · rintro ⟨valid, hname, hversion⟩
    obtain ⟨name', version'⟩ := k
    rw [hsplit] at hname hversion
    obtain rfl : name = name' := hname
    have hne : name ≠ "" := PluginName.ne_empty_of_validate valid
    have hfault : PluginName.fault? name = none := PluginName.validate_eq_ok_iff.1 valid
    rcases hversion with ⟨hempty, rfl⟩ | ⟨v, rfl, hparse⟩
    · obtain rfl : version = "" := hempty
      simp [hne, hfault]
    · have hversion : version ≠ "" := by
        rintro rfl
        cases hparse
      simp [hne, hfault, hversion, hparse]

/-- **What is read** is what the text spells without the blanks around it. -/
theorem parse_eq_ok_iff {t : String} {k : PluginKey} :
    parse t = .ok k ↔ Spells (Text.trim t) k := by
  rw [parse_eq_ofParts]
  exact ofParts_eq_ok_iff

/-- A key that can be written is read back from its text. -/
theorem Proper.parse_text {k : PluginKey} (h : k.Proper) : parse k.text = .ok k := by
  rw [parse_eq_ok_iff, h.trim_text]
  exact h.spells_text

/-! ## Main result -/

/-- **Writing and reading a key.**

1. A key whose name is valid and whose version is missing or has a positive number is read back from its
   text, so no two of them have the same text.
2. What a text is read as is such a key. It has that text, blanks aside, exactly if no slash stands behind a
   bare name and the number of the version has no leading zero.
3. Read as a version is `v` with ASCII digits that stand for a number from 1 to 2^64 - 1, and behind them
   nothing, `-alpha` or `-beta`. -/
theorem key_round_trip :
    (∀ k : PluginKey, k.Proper → parse k.text = .ok k) ∧
    (∀ k k' : PluginKey, k.Proper → k'.Proper → k.text = k'.text → k = k') ∧
    (∀ t k, parse t = .ok k →
      k.Proper ∧ parse k.text = .ok k ∧
      (k.text = Text.trim t ↔
        ('/' ∈ (Text.trim t).toList → (splitKey (Text.trim t)).2 ≠ "") ∧
          PluginVersion.isPadded (splitKey (Text.trim t)).2 = false)) ∧
    (∀ s v, PluginVersion.parse s = .ok v ↔
      ∃ digits : List Char, digits ≠ [] ∧ (∀ c ∈ digits, c.isDigit = true) ∧
        s.toList = 'v' :: (digits ++ v.stage.suffix.toList) ∧
        v.number.toNat = Text.digitsValue digits ∧
        1 ≤ Text.digitsValue digits ∧ Text.digitsValue digits < Nat.pow 2 64) := by
  refine ⟨fun k proper => proper.parse_text, ?_, ?_, ?_⟩
  · intro k k' proper proper' htext
    have hread := proper.parse_text
    rw [htext, proper'.parse_text] at hread
    exact (Except.ok.inj hread).symm
  · intro t k hread
    have spells := parse_eq_ok_iff.1 hread
    exact ⟨spells.proper, spells.proper.parse_text, spells.text_eq_iff⟩
  · intro s v
    rw [PluginVersion.parse_eq_ok_iff, PluginVersion.parse?_eq_some_iff]
    constructor
    · rintro ⟨digits, written⟩
      obtain ⟨hne, hall⟩ := Text.isDigits_iff.1 written.isDigits
      have hvalue := written.value
      have hpos := PluginVersion.toNat_pos_iff.2 written.positive
      have hbound : v.number.toNat < Nat.pow 2 64 := v.number.toNat_lt
      exact ⟨digits, hne, hall, written.toList, hvalue.symm, by omega, by omega⟩
    · rintro ⟨digits, hne, hall, htext, hvalue, hpos, -⟩
      have positive : v.number ≠ 0 := by
        apply PluginVersion.toNat_pos_iff.1
        omega
      exact ⟨digits, Text.isDigits_iff.2 ⟨hne, hall⟩, htext, hvalue.symm, positive⟩

/-- A key with the largest number, and a spelling of it with a blank and a leading zero. -/
theorem key_round_trip_largest :
    let k : PluginKey := ⟨"go.scaffold.dev", some ⟨18446744073709551615, .beta⟩⟩
    let t := " go.scaffold.dev/v018446744073709551615-beta"
    k.Proper ∧ parse k.text = .ok k ∧ parse t = .ok k ∧ k.text ≠ Text.trim t := by
  intro k t
  obtain ⟨written, -, read, -⟩ := key_round_trip
  have hread : parse t = .ok k := by decide
  obtain ⟨proper, -, hspelling⟩ := read t k hread
  have padded : PluginVersion.isPadded (splitKey (Text.trim t)).2 = true := by decide
  refine ⟨proper, written k proper, hread, ?_⟩
  intro htext
  simp [(hspelling.1 htext).2] at padded

end PluginKey

end Scaffolder
