import Mathlib.Computability.RegularExpressions
import Scaffolder.Proofs.PluginKey

/-!
# The grammar of plugin names

A plugin name is a DNS-1123 subdomain: labels between dots, each of which has the form
`[a-z0-9]([-a-z0-9]*[a-z0-9])?`.

* **Labels.** A name has one list of labels (`hasLabels_iff`), told by what it is when they are joined. A label
  is well formed (`IsLabel`) if it has the form and at most 63 bytes. The form is a regular expression, and it
  says no more than that the label is not empty, is made of label characters and has no hyphen at an end
  (`mem_labelForm_iff`).
* **Faults of a label** (`Flaw`) are told one by one, whether or not another one is there too. The one that is
  found is the first in the order of `labelOrder` (`labelFault?_eq_some_iff`), and a label without any is well
  formed (`labelFault?_eq_none_iff`).
* **Faults of a name** (`Reported`): those of the whole name come first, and then those of the leftmost label
  that is not well formed (`fault?_eq_some_iff`).

`validate_grammar` says for every text what comes of it.
-/

namespace Scaffolder.PluginName

/-! ## The form of a label -/

/-- Any one of some characters. -/
def oneOf (cs : List Char) : RegularExpression Char := (cs.map RegularExpression.char).sum

/-- The lower-case letters and the digits of ASCII, `[a-z0-9]`. -/
def plainChars : List Char := "abcdefghijklmnopqrstuvwxyz0123456789".toList

/-- What may stand behind the first character of a label, `([-a-z0-9]*[a-z0-9])?`. -/
def labelRest : RegularExpression Char := 1 + (oneOf ('-' :: plainChars)).star * oneOf plainChars

/-- The form of a label, `[a-z0-9]([-a-z0-9]*[a-z0-9])?`. -/
def labelForm : RegularExpression Char := oneOf plainChars * labelRest

/-- The words of a class of characters are its characters. -/
theorem mem_oneOf {cs word : List Char} :
    word ∈ (oneOf cs).matches' ↔ ∃ c ∈ cs, word = [c] := by
  unfold oneOf
  induction cs with
  | nil => simp [RegularExpression.matches'_zero]
  | cons d cs ih =>
    have hd : word ∈ ({[d]} : Language Char) ↔ word = [d] := Iff.rfl
    rw [List.map_cons, List.sum_cons, RegularExpression.matches'_add, Language.mem_add, ih,
      RegularExpression.matches'_char, hd]
    simp

/-- Repeated, some characters make every word that has no other character. -/
theorem mem_star_oneOf {cs word : List Char} :
    word ∈ (oneOf cs).star.matches' ↔ ∀ c ∈ word, c ∈ cs := by
  rw [RegularExpression.matches'_star, Language.mem_kstar]
  constructor
  · rintro ⟨pieces, rfl, hpieces⟩ c hc
    obtain ⟨piece, hpiece, hc⟩ := List.mem_flatten.1 hc
    obtain ⟨d, hd, rfl⟩ := mem_oneOf.1 (hpieces piece hpiece)
    rwa [List.mem_singleton.1 hc]
  · intro h
    refine ⟨word.map fun c => [c], (List.flatMap_singleton' word).symm, ?_⟩
    intro piece hpiece
    obtain ⟨c, hc, rfl⟩ := List.mem_map.1 hpiece
    exact mem_oneOf.2 ⟨c, h c hc, rfl⟩

/-- The plain characters are lower-case letters and digits. -/
theorem mem_plainChars {c : Char} : c ∈ plainChars ↔ Text.isLowerOrDigit c = true := by
  constructor
  · have all : plainChars.all Text.isLowerOrDigit = true := rfl
    exact List.all_eq_true.1 all c
  · intro h
    have all : ∀ n < 123, Text.isLowerOrDigit (Char.ofNat n) = true → Char.ofNat n ∈ plainChars := by
      decide
    have hbound := (Text.toNat_of_isLowerOrDigit h).2
    have hc := all c.toNat (by omega)
    rw [Char.ofNat_toNat] at hc
    exact hc h

/-- With the hyphen they are what a label may hold. -/
theorem mem_hyphen_plainChars {c : Char} : c ∈ '-' :: plainChars ↔ isLabelChar c = true := by
  rw [List.mem_cons, mem_plainChars, isLabelChar, Bool.or_eq_true, beq_iff_eq]
  exact or_comm

/-- The plain characters are the label characters other than the hyphen. -/
theorem mem_plainChars_iff {c : Char} : c ∈ plainChars ↔ isLabelChar c = true ∧ c ≠ '-' := by
  have hyphen : '-' ∉ plainChars := by decide
  rw [← mem_hyphen_plainChars, List.mem_cons]
  constructor
  · intro hc
    refine ⟨.inr hc, ?_⟩
    rintro rfl
    exact hyphen hc
  · rintro ⟨hc, other⟩
    exact hc.resolve_left other

/-- The rest of a label holds such characters, and ends with a plain one. -/
theorem mem_labelRest_iff {rest : List Char} :
    rest ∈ labelRest.matches' ↔
      (∀ c ∈ rest, isLabelChar c = true) ∧ rest.getLast? ≠ some '-' := by
  unfold labelRest
  rw [RegularExpression.matches'_add, RegularExpression.matches'_epsilon, Language.mem_add,
    Language.mem_one, RegularExpression.matches'_mul, Language.mem_mul]
  constructor
  · rintro (rfl | ⟨inner, hinner, last, hlast, rfl⟩)
    · simp
    · obtain ⟨b, hb, rfl⟩ := mem_oneOf.1 hlast
      obtain ⟨hlabel, hhyphen⟩ := mem_plainChars_iff.1 hb
      rw [List.getLast?_concat]
      refine ⟨?_, by simpa using hhyphen⟩
      intro c hc
      rcases List.mem_append.1 hc with hc | hc
      · exact mem_hyphen_plainChars.1 (mem_star_oneOf.1 hinner c hc)
      · rwa [List.mem_singleton.1 hc]
  · rintro ⟨hchars, hlast⟩
    rcases List.eq_nil_or_concat' rest with rfl | ⟨inner, b, rfl⟩
    · exact .inl rfl
    · rw [List.getLast?_concat] at hlast
      refine .inr ⟨inner, mem_star_oneOf.2 ?_, [b], mem_oneOf.2 ⟨b, ?_, rfl⟩, rfl⟩
      · intro c hc
        exact mem_hyphen_plainChars.2 (hchars c (List.mem_append_left _ hc))
      · exact mem_plainChars_iff.2 ⟨hchars b (by simp), by simpa using hlast⟩

/-- **The form of a label:** it is not empty, is made of label characters, and no hyphen stands at an end. -/
theorem mem_labelForm_iff {label : List Char} :
    label ∈ labelForm.matches' ↔ label ≠ [] ∧ (∀ c ∈ label, isLabelChar c = true) ∧
      label.head? ≠ some '-' ∧ label.getLast? ≠ some '-' := by
  unfold labelForm
  rw [RegularExpression.matches'_mul, Language.mem_mul]
  constructor
  · rintro ⟨first, hfirst, rest, hrest, rfl⟩
    obtain ⟨a, ha, rfl⟩ := mem_oneOf.1 hfirst
    obtain ⟨hlabel, hhyphen⟩ := mem_plainChars_iff.1 ha
    obtain ⟨hchars, hlast⟩ := mem_labelRest_iff.1 hrest
    refine ⟨List.cons_ne_nil _ _, List.forall_mem_cons.2 ⟨hlabel, hchars⟩, by simpa using hhyphen, ?_⟩
    rw [List.getLast?_append]
    rcases hr : rest.getLast? with _ | b
    · simpa using hhyphen
    · rw [hr] at hlast
      simpa using hlast
  · rintro ⟨nonempty, hchars, hhead, hlast⟩
    obtain ⟨a, rest, rfl⟩ := List.exists_cons_of_ne_nil nonempty
    obtain ⟨ha, hrest⟩ := List.forall_mem_cons.1 hchars
    have hplain : a ∈ plainChars := mem_plainChars_iff.2 ⟨ha, by simpa using hhead⟩
    refine ⟨[a], mem_oneOf.2 ⟨a, hplain, rfl⟩, rest, mem_labelRest_iff.2 ⟨hrest, ?_⟩, rfl⟩
    intro hhyphen
    apply hlast
    rw [List.getLast?_cons, hhyphen]
    rfl

/-! ## Bytes -/

/-- The bytes of some characters are those of the text that they make. -/
theorem byteSize_eq (cs : List Char) : byteSize cs = (String.ofList cs).utf8ByteSize := by
  induction cs with
  | nil => rfl
  | cons c cs ih =>
    have step : byteSize (c :: cs) = c.utf8Size + byteSize cs := rfl
    rw [step, ih, ← String.utf8ByteSize_singleton, ← String.utf8ByteSize_append]
    congr 1
    apply String.toList_inj.1
    simp

/-- The bytes of the characters are those of the text. -/
theorem byteSize_toList (s : String) : byteSize s.toList = s.utf8ByteSize := by
  rw [byteSize_eq, String.ofList_toList]

/-! ## Labels -/

/-- Whether a label is well formed. -/
structure IsLabel (label : List Char) : Prop where
  /-- It has the form of a label. -/
  form : label ∈ labelForm.matches'
  /-- It has at most 63 bytes. -/
  bounded : (String.ofList label).utf8ByteSize ≤ 63

/-- `HasLabels name ls`: a name is these labels joined by dots. -/
structure HasLabels (name : String) (ls : List (List Char)) : Prop where
  /-- There is a label. -/
  nonempty : ls ≠ []
  /-- Dots stand between the labels only. -/
  dotless : ∀ label ∈ ls, '.' ∉ label
  /-- Joined, the labels are the name. -/
  joined : ['.'].intercalate ls = name.toList

/-- **The labels of a name** are what it is made of, and nothing else is. -/
theorem hasLabels_iff {name : String} {ls : List (List Char)} :
    HasLabels name ls ↔ labels name.toList = ls := by
  constructor
  · rintro ⟨nonempty, dotless, joined⟩
    rw [← joined]
    exact List.splitOn_intercalate '.' dotless nonempty
  · rintro rfl
    exact ⟨List.splitOn_ne_nil _ _, fun label => Text.notMem_of_mem_splitOn, List.intercalate_splitOn '.'⟩

/-! ## Faults of a label -/

/-- What it means that a fault lies in a label. The first two lie in whole names only. -/
def Flaw (label : List Char) : NameFault → Prop
  | .empty | .tooLong => False
  | .emptyLabel => label = []
  | .labelTooLong => 63 < (String.ofList label).utf8ByteSize
  | .badCharacter => ∃ c ∈ label, c ∉ '-' :: plainChars
  | .hyphenAtEnd => label.head? = some '-' ∨ label.getLast? = some '-'

instance (label : List Char) : DecidablePred (Flaw label) := fun fault =>
  match fault with
  | .empty | .tooLong => inferInstanceAs (Decidable False)
  | .emptyLabel => inferInstanceAs (Decidable (label = []))
  | .labelTooLong => inferInstanceAs (Decidable (63 < (String.ofList label).utf8ByteSize))
  | .badCharacter => inferInstanceAs (Decidable (∃ c ∈ label, c ∉ '-' :: plainChars))
  | .hyphenAtEnd =>
      inferInstanceAs (Decidable (label.head? = some '-' ∨ label.getLast? = some '-'))

/-- The order in which the faults of a label are looked for. -/
def labelOrder : List NameFault := [.emptyLabel, .labelTooLong, .badCharacter, .hyphenAtEnd]

/-- `IsFirst P xs x`: of what has a property in a list, `x` comes first. -/
def IsFirst {α : Type} (P : α → Prop) (xs : List α) (x : α) : Prop :=
  ∃ before after, xs = before ++ x :: after ∧ P x ∧ ∀ y ∈ before, ¬ P y

section

variable {label : List Char} {fault : NameFault}

/-- **A label is well formed exactly if no fault lies in it.** -/
theorem isLabel_iff : IsLabel label ↔ ∀ fault, ¬ Flaw label fault := by
  constructor
  · rintro ⟨form, bounded⟩ fault flaw
    obtain ⟨nonempty, hchars, hhead, hlast⟩ := mem_labelForm_iff.1 form
    cases fault with
    | empty => exact flaw
    | tooLong => exact flaw
    | emptyLabel => exact nonempty flaw
    | labelTooLong => exact absurd flaw (Nat.not_lt_of_le bounded)
    | badCharacter =>
      obtain ⟨c, hc, hforeign⟩ := flaw
      exact hforeign (mem_hyphen_plainChars.2 (hchars c hc))
    | hyphenAtEnd => exact flaw.elim hhead hlast
  · intro faultless
    have hhyphen := not_or.1 (faultless .hyphenAtEnd)
    refine ⟨mem_labelForm_iff.2 ⟨faultless .emptyLabel, ?_, hhyphen⟩,
      Nat.le_of_not_lt (faultless .labelTooLong)⟩
    intro c hc
    apply mem_hyphen_plainChars.1
    by_contra hforeign
    exact faultless .badCharacter ⟨c, hc, hforeign⟩

/-- What is found in a label is the first fault in the order. -/
theorem labelFault?_eq_find? :
    labelFault? label = labelOrder.find? fun fault => decide (Flaw label fault) := by
  have hempty : label.isEmpty = decide (Flaw label .emptyLabel) := by
    rw [Bool.eq_iff_iff, List.isEmpty_iff, decide_eq_true_eq]
    rfl
  have hchars : (!label.all isLabelChar) = decide (Flaw label .badCharacter) := by
    rw [Bool.eq_iff_iff, decide_eq_true_eq, List.not_all_eq_any_not, List.any_eq_true]
    unfold Flaw
    simp only [mem_hyphen_plainChars, Bool.not_eq_true, Bool.not_eq_true']
  have hlong : (maxLabelBytes < byteSize label) = Flaw label .labelTooLong := by
    rw [byteSize_eq]
    rfl
  have hhyphen : (label.head? = some '-' ∨ label.getLast? = some '-') = Flaw label .hyphenAtEnd := rfl
  unfold labelFault? labelOrder
  simp only [hempty, hlong, hchars, hhyphen, decide_eq_true_eq]
  split_ifs with h₁ h₂ h₃ h₄
  · simp [h₁]
  · simp [h₁, h₂]
  · simp [h₁, h₂, h₃]
  · simp [h₁, h₂, h₃, h₄]
  · simp [h₁, h₂, h₃, h₄]

/-- **What is found in a label** is the first fault that lies in it. -/
theorem labelFault?_eq_some_iff :
    labelFault? label = some fault ↔ IsFirst (Flaw label) labelOrder fault := by
  rw [labelFault?_eq_find?, List.find?_eq_some_iff_append, decide_eq_true_eq]
  unfold IsFirst
  constructor
  · rintro ⟨flaw, before, after, horder, hbefore⟩
    exact ⟨before, after, horder, flaw, fun f hf => by simpa using hbefore f hf⟩
  · rintro ⟨before, after, horder, flaw, hbefore⟩
    exact ⟨flaw, before, after, horder, fun f hf => by simpa using hbefore f hf⟩

/-- **Nothing is found in a label that is well formed,** and in no other. -/
theorem labelFault?_eq_none_iff : labelFault? label = none ↔ IsLabel label := by
  rw [isLabel_iff, labelFault?_eq_find?, List.find?_eq_none]
  constructor
  · intro h fault flaw
    have known : fault ∈ labelOrder := by
      cases fault with
      | empty => exact flaw.elim
      | tooLong => exact flaw.elim
      | _ => simp [labelOrder]
    exact h fault known (decide_eq_true flaw)
  · intro h fault _ flaw
    exact h fault (of_decide_eq_true flaw)

end

/-! ## Faults of a name -/

/-- `Reported name fault`: of the faults of a name, this is the one to report. -/
inductive Reported (name : String) : NameFault → Prop
  /-- Nothing is written. -/
  | empty (h : name = "") : Reported name .empty
  /-- The name has more than 253 bytes. -/
  | tooLong (h : 253 < name.utf8ByteSize) : Reported name .tooLong
  /-- The whole name is in order, and in the leftmost label that is not well formed this fault comes first. -/
  | label {ls : List (List Char)} {label : List Char} {fault : NameFault} (written : name ≠ "")
      (bounded : name.utf8ByteSize ≤ 253) (pieces : HasLabels name ls)
      (leftmost : IsFirst (fun l => ¬ IsLabel l) ls label)
      (first : IsFirst (Flaw label) labelOrder fault) : Reported name fault

section

variable {name : String}

/-- The labels are looked at if nothing is wrong with the whole name. -/
theorem fault?_eq_findSome? (written : name ≠ "") (bounded : name.utf8ByteSize ≤ 253) :
    fault? name = (labels name.toList).findSome? labelFault? := by
  have hbounded : ¬ maxNameBytes < byteSize name.toList := by
    rw [byteSize_toList]
    exact Nat.not_lt_of_le bounded
  unfold fault?
  simp [written, hbounded]

/-- A text that is too long is refused for that, whatever else is wrong. -/
theorem fault?_of_long (long : 253 < name.utf8ByteSize) : fault? name = some .tooLong := by
  have written : name ≠ "" := by
    rintro rfl
    simp at long
  have hlong : maxNameBytes < byteSize name.toList := by
    rw [byteSize_toList]
    exact long
  unfold fault?
  simp [written, hlong]

/-- **The fault that is found in a name** is the one to report. -/
theorem fault?_eq_some_iff {fault : NameFault} : fault? name = some fault ↔ Reported name fault := by
  constructor
  · intro h
    by_cases hempty : name = ""
    · subst hempty
      obtain rfl : NameFault.empty = fault := Option.some.inj h
      exact .empty rfl
    by_cases hlong : 253 < name.utf8ByteSize
    · rw [fault?_of_long hlong] at h
      obtain rfl := Option.some.inj h
      exact .tooLong hlong
    have hbounded := Nat.le_of_not_lt hlong
    rw [fault?_eq_findSome? hempty hbounded] at h
    obtain ⟨before, label, after, hlabels, hlabel, hbefore⟩ := List.findSome?_eq_some_iff.1 h
    have hbad : ¬ IsLabel label := by
      rw [← labelFault?_eq_none_iff, hlabel]
      exact Option.some_ne_none fault
    have hgood : ∀ l ∈ before, ¬ ¬ IsLabel l :=
      fun l hl => not_not.2 (labelFault?_eq_none_iff.1 (hbefore l hl))
    exact .label hempty hbounded (hasLabels_iff.2 hlabels) ⟨before, after, rfl, hbad, hgood⟩
      (labelFault?_eq_some_iff.1 hlabel)
  · intro h
    cases h with
    | empty h => rw [h]; rfl
    | tooLong h => exact fault?_of_long h
    | @label ls label fault written bounded pieces leftmost first =>
      obtain ⟨before, after, rfl, -, hbefore⟩ := leftmost
      rw [fault?_eq_findSome? written bounded, hasLabels_iff.1 pieces]
      apply List.findSome?_eq_some_iff.2
      refine ⟨before, label, after, rfl, labelFault?_eq_some_iff.2 first, ?_⟩
      intro l hl
      exact labelFault?_eq_none_iff.2 (not_not.1 (hbefore l hl))

/-- **No fault is found in a name** exactly if it is within the bounds and its labels are well formed. -/
theorem fault?_eq_none_iff :
    fault? name = none ↔ 1 ≤ name.utf8ByteSize ∧ name.utf8ByteSize ≤ 253 ∧
      ∃ ls, HasLabels name ls ∧ ∀ label ∈ ls, IsLabel label := by
  have hwritten : 1 ≤ name.utf8ByteSize ↔ name ≠ "" := by
    rw [Nat.one_le_iff_ne_zero, Ne, String.utf8ByteSize_eq_zero_iff]
  rw [hwritten]
  constructor
  · intro h
    have written : name ≠ "" := by
      rintro rfl
      cases h
    have bounded : name.utf8ByteSize ≤ 253 := by
      by_contra hlong
      rw [fault?_of_long (Nat.lt_of_not_le hlong)] at h
      cases h
    rw [fault?_eq_findSome? written bounded, List.findSome?_eq_none_iff] at h
    refine ⟨written, bounded, labels name.toList, hasLabels_iff.2 rfl, ?_⟩
    intro label hlabel
    exact labelFault?_eq_none_iff.1 (h label hlabel)
  · rintro ⟨written, bounded, ls, pieces, hlabels⟩
    rw [fault?_eq_findSome? written bounded, hasLabels_iff.1 pieces, List.findSome?_eq_none_iff]
    intro label hlabel
    exact labelFault?_eq_none_iff.2 (hlabels label hlabel)

end

/-! ## Main result -/

/-- **What comes of every text that should name a plugin.**

1. It is accepted exactly if it has from 1 to 253 bytes in UTF-8 and all its labels are well formed: each has
   the form `[a-z0-9]([-a-z0-9]*[a-z0-9])?` and at most 63 bytes.
2. Otherwise the error names the text and the first fault: that it is empty, or else its length, or else, in
   the leftmost label that is not well formed, that the label is empty, or its length, or a character that
   does not belong there, or a hyphen at an end.
3. A name that is accepted holds neither a slash nor white space, so a key is cut behind it whatever follows
   the slash. -/
theorem validate_grammar (name : String) :
    (validate name = .ok () ↔ 1 ≤ name.utf8ByteSize ∧ name.utf8ByteSize ≤ 253 ∧
      ∃ ls, HasLabels name ls ∧ ∀ label ∈ ls, IsLabel label) ∧
    (∀ e, validate name = .error e ↔ ∃ fault, e = .invalidName name fault ∧ Reported name fault) ∧
    (validate name = .ok () → '/' ∉ name.toList ∧ (∀ c ∈ name.toList, Text.isBlank c = false) ∧
      ∀ version, splitKey (name ++ "/" ++ version) = (name, version)) := by
  refine ⟨validate_eq_ok_iff.trans fault?_eq_none_iff, ?_, ?_⟩
  · intro e
    simp only [← fault?_eq_some_iff]
    unfold validate
    rcases fault? name with _ | fault
    · simp
    · simp [eq_comm]
  · intro valid
    have slash := slash_notMem_of_validate valid
    exact ⟨slash, isBlank_of_validate valid, splitKey_append slash⟩

/-- Two labels, one of them with a hyphen inside and one of a single character, and a label of thirty-two
letters that have two bytes each: it is too long before it has a character that does not belong there. -/
theorem validate_grammar_bytes :
    let name := "go-2.x"
    let wide := String.ofList (List.replicate 32 '\u00fc')
    validate name = .ok () ∧ splitKey (name ++ "/" ++ "v2/v3") = (name, "v2/v3") ∧
      validate wide = .error (.invalidName wide .labelTooLong) := by
  intro name wide
  obtain ⟨accepted, -, cut⟩ := validate_grammar name
  obtain ⟨-, refused, -⟩ := validate_grammar wide
  have hname : validate name = .ok () := by
    refine accepted.2 ⟨by decide, by decide, _, hasLabels_iff.2 rfl, ?_⟩
    intro label hlabel
    apply labelFault?_eq_none_iff.1
    exact (by decide : ∀ label ∈ labels name.toList, labelFault? label = none) label hlabel
  have hlong : Flaw wide.toList .labelTooLong := by decide
  have leftmost : IsFirst (fun l => ¬ IsLabel l) [wide.toList] wide.toList :=
    ⟨[], [], rfl, fun h => isLabel_iff.1 h _ hlong, by simp⟩
  have first : IsFirst (Flaw wide.toList) labelOrder .labelTooLong :=
    ⟨[.emptyLabel], [.badCharacter, .hyphenAtEnd], rfl, hlong, by simp [Flaw, wide]⟩
  have reported : Reported wide .labelTooLong :=
    .label (by decide) (by decide) (hasLabels_iff.2 (by decide)) leftmost first
  exact ⟨hname, (cut hname).2.2 "v2/v3", (refused _).2 ⟨_, rfl, reported⟩⟩

end Scaffolder.PluginName
