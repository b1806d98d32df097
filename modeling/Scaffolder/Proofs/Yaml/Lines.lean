import Scaffolder.Proofs.Yaml.Block

/-!
# Lines of a written value

Every line of a written value ends with a break. Whether one has to be added tells the last
character before it, so the line of a field or an item can be cut into what is written of the value
and what ends its line (`Value.freshLine_write`).
-/

namespace Scaffolder.Yaml

/-- The end of the line of a written text, where that does not end with a break itself. -/
def textEnd (cs : List Char) : List Char := if Writing.of cs = .lines then lineEnd cs else ['\n']

/-! ## Characters -/

/-- Spaces are printable. -/
theorem isPrintable_of_mem_spaces {n : Nat} {c : Char} (h : c ∈ Value.spaces n) :
    isPrintable c = true := by
  rw [List.eq_of_mem_replicate h]
  decide

/-- Lines are printable with what is put before them, if that is. -/
theorem isPrintable_padLines {padding cs : List Char} (doubling fresh : Bool)
    (hpadding : ∀ c ∈ padding, isPrintable c = true) (hcs : ∀ c ∈ cs, isPrintable c = true) :
    ∀ c ∈ padLines padding doubling fresh cs, isPrintable c = true := by
  induction cs generalizing fresh with
  | nil => exact List.forall_mem_nil _
  | cons d ds ih =>
    obtain ⟨hd, hds⟩ := List.forall_mem_cons.1 hcs
    rw [padLines]
    split
    · exact List.forall_mem_cons.2 ⟨hd, ih true hds⟩
    · refine List.forall_mem_append.2 ⟨List.forall_mem_append.2 ⟨?_, ?_⟩, ih false hds⟩
      · split
        · exact hpadding
        · exact List.forall_mem_nil _
      · split
        · simpa using ⟨show isPrintable '\'' = true from by decide, hd⟩
        · simpa using hd

/-- Between single quotes a printable text is printable. -/
theorem isPrintable_singleQuoted {padding cs : List Char}
    (hpadding : ∀ c ∈ padding, isPrintable c = true) (hcs : ∀ c ∈ cs, isPrintable c = true) :
    ∀ c ∈ singleQuoted padding cs, isPrintable c = true := by
  have hquote : ∀ c ∈ ['\''], isPrintable c = true := List.forall_mem_singleton.2 (by decide)
  have hending : ∀ c ∈ if cs.getLast?.any breaksWritten then padding else [],
      isPrintable c = true := by
    split
    · exact hpadding
    · exact List.forall_mem_nil _
  unfold singleQuoted
  exact List.forall_mem_append.2 ⟨List.forall_mem_append.2
    ⟨List.forall_mem_cons.2 ⟨by decide, isPrintable_padLines _ _ hpadding hcs⟩, hending⟩, hquote⟩

/-- An escape makes a character printable that is not. -/
theorem isPrintable_writtenInQuotes (c : Char) :
    ∀ d ∈ writtenInQuotes c, isPrintable d = true := by
  unfold writtenInQuotes
  split
  · obtain ⟨body, hescape, hbody⟩ := escapeChar_cases c
    rw [hescape]
    exact List.forall_mem_cons.2 ⟨by decide, fun d hd => (hbody.of_mem hd).1⟩
  · next hc =>
    simp only [Bool.or_eq_true, Bool.not_eq_true', not_or, Bool.not_eq_false] at hc
    simpa using hc.1.1.1

/-- Between double quotes every text is printable, since what is not is escaped. -/
theorem isPrintable_doubleQuoted (cs : List Char) :
    ∀ c ∈ doubleQuoted cs, isPrintable c = true := by
  have hinside : ∀ c ∈ cs.flatMap writtenInQuotes, isPrintable c = true := by
    intro c hc
    obtain ⟨d, _, hd⟩ := List.mem_flatMap.1 hc
    exact isPrintable_writtenInQuotes d c hd
  exact List.forall_mem_append.2
    ⟨List.forall_mem_cons.2 ⟨by decide, hinside⟩, List.forall_mem_singleton.2 (by decide)⟩

/-- A printable text is printable as a block of lines. -/
theorem isPrintable_asLines {padding cs : List Char}
    (hpadding : ∀ c ∈ padding, isPrintable c = true) (hcs : ∀ c ∈ cs, isPrintable c = true) :
    ∀ c ∈ asLines padding cs, isPrintable c = true := by
  have hhint : ∀ c ∈ hintWritten (hasHint cs), isPrintable c = true := by
    rw [← List.all_eq_true]
    cases hasHint cs <;> decide
  have hchomping : ∀ c ∈ (chompingOf cs).written, isPrintable c = true := by
    rw [← List.all_eq_true]
    cases chompingOf cs <;> decide
  rw [asLines_eq]
  exact List.forall_mem_cons.2 ⟨by decide, List.forall_mem_append.2 ⟨hhint, List.forall_mem_append.2
    ⟨hchomping, List.forall_mem_cons.2 ⟨by decide, isPrintable_padLines _ _ hpadding hcs⟩⟩⟩⟩

/-- **A text is written in printable characters,** whatever it is. -/
theorem isPrintable_writeText (n : Nat) (cs : List Char) :
    ∀ c ∈ writeText (Value.spaces n) cs, isPrintable c = true := by
  have hpadding : ∀ c ∈ Value.spaces n, isPrintable c = true := fun c hc =>
    isPrintable_of_mem_spaces hc
  unfold writeText
  cases hwriting : Writing.of cs with
  | plain => exact fun c hc => ((Writing.of_eq_plain hwriting).1.stays.of_mem c hc).1
  | single => exact isPrintable_singleQuoted hpadding (Writing.of_eq_single hwriting).1
  | double => exact isPrintable_doubleQuoted cs
  | lines => exact isPrintable_asLines hpadding (Writing.of_eq_lines hwriting).1

namespace Value

/-! ## The ends of lines -/

/-- What ends the last line of a value behind the name of a field or behind a dash. -/
def ending : Value → List Char
  | .text s => textEnd s.toList
  | .truth _ => ['\n']
  | .list [] => ['\n']
  | .record [] => ['\n']
  | .list (_ :: _) => []
  | .record (_ :: _) => []

/-- What ends a line is added unless the last character does it. -/
theorem freshLine_concat (cs : List Char) (c : Char) :
    freshLine (cs ++ [c]) = cs ++ [c] ++ if breaksWritten c then [] else ['\n'] := by
  unfold freshLine
  rw [List.getLast?_concat, Option.all_some]
  cases breaksWritten c with
  | true => exact (List.append_nil _).symm
  | false => rfl

/-- Padding comes before a character, never behind it. -/
theorem padLines_concat_eq (padding : List Char) (fresh : Bool) (cs : List Char) (c : Char) :
    ∃ before, padLines padding false fresh (cs ++ [c]) = before ++ [c] := by
  induction cs generalizing fresh with
  | nil =>
    rw [List.nil_append, padLines, padLines]
    split
    · exact ⟨[], rfl⟩
    · exact ⟨if fresh then padding else [], by simp [padLines]⟩
  | cons d ds ih =>
    rw [List.cons_append, padLines]
    split
    · obtain ⟨before, hbefore⟩ := ih true
      exact ⟨d :: before, by rw [hbefore, List.cons_append]⟩
    · obtain ⟨before, hbefore⟩ := ih false
      rw [hbefore]
      exact ⟨_, (List.append_assoc ..).symm⟩

/-- The last character of a text is the last of its lines. -/
theorem asLines_concat_eq (padding cs : List Char) (c : Char) :
    ∃ before, asLines padding (cs ++ [c]) = before ++ [c] := by
  obtain ⟨before, hbefore⟩ := padLines_concat_eq padding true cs c
  rw [asLines_eq, hbefore]
  exact ⟨'|' :: (hintWritten (hasHint (cs ++ [c])) ++ ((chompingOf (cs ++ [c])).written ++
    '\n' :: before)), by simp⟩

/-- The last character of a written text tells whether its line has to be ended. -/
theorem writeText_concat_eq (padding cs : List Char) :
    ∃ before c, writeText padding cs = before ++ [c] ∧
      textEnd cs = if breaksWritten c then [] else ['\n'] := by
  unfold writeText textEnd
  cases hwriting : Writing.of cs with
  | plain =>
    obtain ⟨hplain, _⟩ := Writing.of_eq_plain hwriting
    obtain ⟨d, rest, rfl, _⟩ := hplain.exists_cons
    obtain ⟨before, c, hconcat⟩ :=
      (List.eq_nil_or_concat (d :: rest)).resolve_left (List.cons_ne_nil _ _)
    rw [List.concat_eq_append] at hconcat
    rw [hconcat] at hplain
    obtain ⟨hprint, hbreak⟩ := hplain.stays.of_mem c (by simp)
    refine ⟨before, c, hconcat, ?_⟩
    rw [breaksWritten_eq hprint, hbreak]
    rfl
  | single => exact ⟨_, '\'', rfl, rfl⟩
  | double => exact ⟨_, '"', rfl, rfl⟩
  | lines =>
    obtain ⟨front, c, rfl⟩ := (List.eq_nil_or_concat cs).resolve_left (Writing.of_eq_lines hwriting).2
    rw [List.concat_eq_append]
    obtain ⟨before, hbefore⟩ := asLines_concat_eq padding front c
    exact ⟨before, c, hbefore, lineEnd_concat front c⟩

/-- A written text with the end of its line ends with a break. -/
theorem exists_writeText_line (n : Nat) (cs : List Char) :
    ∃ before c, writeText (spaces n) cs ++ textEnd cs = before ++ [c] ∧ isBreak c = true := by
  obtain ⟨before, c, hwrite, hending⟩ := writeText_concat_eq (spaces n) cs
  have hprint : isPrintable c = true := isPrintable_writeText n cs c (by simp [hwrite])
  rw [hwrite, hending, breaksWritten_eq hprint]
  cases hbreak : isBreak c with
  | true => exact ⟨before, c, List.append_nil _, hbreak⟩
  | false => exact ⟨before ++ [c], '\n', rfl, rfl⟩

/-- Whether a text ends with a break. -/
def EndsLine (cs : List Char) : Prop := ∃ before c, cs = before ++ [c] ∧ breaksWritten c = true

/-- What comes before a line does not change that it ends. -/
theorem EndsLine.append {cs : List Char} (h : EndsLine cs) (front : List Char) :
    EndsLine (front ++ cs) := by
  obtain ⟨before, c, rfl, hc⟩ := h
  exact ⟨front ++ before, c, (List.append_assoc ..).symm, hc⟩

/-- A line that is made to end ends. -/
theorem endsLine_freshLine {cs : List Char} (h : cs ≠ []) : EndsLine (freshLine cs) := by
  obtain ⟨before, c, rfl⟩ := (List.eq_nil_or_concat cs).resolve_left h
  rw [List.concat_eq_append, freshLine_concat]
  cases hc : breaksWritten c with
  | true => exact ⟨before, c, List.append_nil _, hc⟩
  | false => exact ⟨before ++ [c], '\n', rfl, by decide⟩

/-- Written items end their line. -/
theorem endsLine_writeItems (column : Nat) (inline : Bool) (item : Value) (items : List Value) :
    EndsLine (writeItems column inline (item :: items)) := by
  induction items generalizing inline item with
  | nil =>
    rw [writeItems, writeItems, List.append_nil]
    exact (endsLine_freshLine (List.cons_ne_nil _ _)).append _
  | cons next items ih =>
    rw [writeItems]
    exact (ih false next).append _

/-- Written fields end their line. -/
theorem endsLine_writeFields (column : Nat) (inline : Bool) (name : String) (value : Value)
    (fields : List (String × Value)) :
    EndsLine (writeFields column inline ((name, value) :: fields)) := by
  induction fields generalizing inline name value with
  | nil =>
    rw [writeFields, writeFields, List.append_nil]
    exact (endsLine_freshLine (by simp)).append _
  | cons next fields ih =>
    rw [writeFields]
    exact (ih false next.1 next.2).append _

/-- The last character of a written value tells whether its line has to be ended. -/
theorem write_concat_eq (column : Nat) (dashed : Bool) (v : Value) :
    ∃ before c, v.write column dashed = before ++ [c] ∧
      v.ending = if breaksWritten c then [] else ['\n'] := by
  have hbreak : ∀ {first : Char} {cs : List Char}, EndsLine cs →
      ∃ before c, first :: cs = before ++ [c] ∧ [] = if breaksWritten c then [] else ['\n'] := by
    rintro first _ ⟨before, c, rfl, hc⟩
    exact ⟨first :: before, c, rfl, (if_pos hc).symm⟩
  cases v with
  | text s =>
    obtain ⟨before, c, hwrite, hending⟩ := writeText_concat_eq (spaces (column + indentStep)) s.toList
    refine ⟨' ' :: before, c, ?_, hending⟩
    rw [write, hwrite, List.cons_append]
  | truth b =>
    rw [write]
    cases b with
    | true => exact ⟨" tru".toList, 'e', rfl, rfl⟩
    | false => exact ⟨" fals".toList, 'e', rfl, rfl⟩
  | list items =>
    cases items with
    | nil =>
      rw [write]
      exact ⟨" [".toList, ']', rfl, rfl⟩
    | cons item items =>
      rw [write]
      split
      · exact hbreak (endsLine_writeItems _ _ _ _)
      · exact hbreak (endsLine_writeItems _ _ _ _)
  | record fields =>
    cases fields with
    | nil =>
      rw [write]
      exact ⟨" \x7b".toList, '\x7d', rfl, rfl⟩
    | cons field fields =>
      rw [write]
      split
      · exact hbreak (endsLine_writeFields _ _ _ _ _)
      · exact hbreak (endsLine_writeFields _ _ _ _ _)

/-- **The line of a written value ends with what ends the value,** whatever stands before it. -/
theorem freshLine_write (front : List Char) (column : Nat) (dashed : Bool) (v : Value) :
    freshLine (front ++ v.write column dashed) = front ++ (v.write column dashed ++ v.ending) := by
  obtain ⟨before, c, hwrite, hending⟩ := v.write_concat_eq column dashed
  rw [hwrite, hending, ← List.append_assoc, freshLine_concat]
  simp only [List.append_assoc]

/-! ## Lines -/

/-- Items that start on a line: a dash, the first item, and the others on lines of their own. -/
theorem writeItems_cons (column : Nat) (item : Value) (items : List Value) :
    writeItems column true (item :: items) =
      '-' :: (item.write column true ++ (item.ending ++ writeItems column false items)) := by
  have hline := freshLine_write ['-'] column true item
  rw [List.singleton_append, List.singleton_append] at hline
  rw [writeItems, hline]
  simp

/-- Items that start no line have spaces before them. -/
theorem writeItems_false (column : Nat) (item : Value) (items : List Value) :
    writeItems column false (item :: items) =
      spaces column ++ writeItems column true (item :: items) := by
  rw [writeItems, writeItems]
  simp

/-- Fields that start on a line: the first name, its value, and the others on lines of their own. -/
theorem writeFields_cons (column : Nat) (name : String) (value : Value)
    (fields : List (String × Value)) :
    writeFields column true ((name, value) :: fields) =
      name.toList ++ ':' ::
        (value.write column false ++ (value.ending ++ writeFields column false fields)) := by
  have hline := freshLine_write (name.toList ++ [':']) column false value
  rw [List.append_assoc, List.singleton_append] at hline
  rw [writeFields, hline]
  simp

/-- Fields that start no line have spaces before them. -/
theorem writeFields_false (column : Nat) (field : String × Value) (fields : List (String × Value)) :
    writeFields column false (field :: fields) =
      spaces column ++ writeFields column true (field :: fields) := by
  rw [writeFields, writeFields]
  simp

/-! ## How lines start -/

/-- A value behind a dash has a space before it. -/
theorem exists_write_true (column : Nat) (v : Value) :
    ∃ more, v.write column true = ' ' :: more := by
  cases v with
  | text s => exact ⟨_, by rw [write]⟩
  | truth b => exact ⟨_, by rw [write]⟩
  | list items =>
    cases items with
    | nil => exact ⟨_, by rw [write]; rfl⟩
    | cons item items => exact ⟨_, by rw [write]; rfl⟩
  | record fields =>
    cases fields with
    | nil => exact ⟨_, by rw [write]; rfl⟩
    | cons field fields => exact ⟨_, by rw [write]; rfl⟩

/-- A value behind a name has a space or a break before it. -/
theorem head?_write_false (column : Nat) (v : Value) :
    (v.write column false).head? = some ' ' ∨ (v.write column false).head? = some '\n' := by
  cases v with
  | text s => exact .inl (by rw [write]; rfl)
  | truth b => exact .inl (by rw [write]; rfl)
  | list items =>
    cases items with
    | nil => exact .inl (by rw [write]; rfl)
    | cons item items => exact .inr (by rw [write]; rfl)
  | record fields =>
    cases fields with
    | nil => exact .inl (by rw [write]; rfl)
    | cons field fields => exact .inr (by rw [write]; rfl)

/-- Items start with the dash of the first. -/
theorem startsWord_writeItems (column : Nat) (item : Value) (items : List Value) (more : List Char) :
    StartsWord (writeItems column true (item :: items) ++ more) := by
  rw [writeItems_cons]
  exact startsWord_cons _ (by decide)

/-- The names of fields start a word. -/
theorem startsWord_writeFields (column : Nat) {field : String × Value}
    (hname : IsFieldName field.1.toList) (fields : List (String × Value)) (more : List Char) :
    StartsWord (writeFields column true (field :: fields) ++ more) := by
  rw [writeFields_cons, List.append_assoc]
  exact startsWord_name hname _

/-! ## Proper values -/

/-- Whether no list and no record in a value is empty, and all names are names of fields. -/
inductive Proper : Value → Prop
  | text (s : String) : Proper (.text s)
  | truth (b : Bool) : Proper (.truth b)
  | list {items : List Value} (nonempty : items ≠ []) (proper : ∀ item ∈ items, Proper item) :
      Proper (.list items)
  | record {fields : List (String × Value)} (nonempty : fields ≠ [])
      (named : ∀ f ∈ fields, IsFieldName f.1.toList) (proper : ∀ f ∈ fields, Proper f.2) :
      Proper (.record fields)

/-- Whether some fields are named as fields and have proper values. -/
def ProperFields (fields : List (String × Value)) : Prop :=
  ∀ f ∈ fields, IsFieldName f.1.toList ∧ f.2.Proper

/-- No fields are proper. -/
theorem ProperFields.nil : ProperFields [] := List.forall_mem_nil _

/-- A proper field before proper fields. -/
theorem ProperFields.cons {name : String} {v : Value} {fields : List (String × Value)}
    (hname : IsFieldName name.toList) (hv : v.Proper) (h : ProperFields fields) :
    ProperFields ((name, v) :: fields) :=
  List.forall_mem_cons.2 ⟨⟨hname, hv⟩, h⟩

/-- Proper fields one after another. -/
theorem ProperFields.append {fields fields' : List (String × Value)} (h : ProperFields fields)
    (h' : ProperFields fields') : ProperFields (fields ++ fields') :=
  List.forall_mem_append.2 ⟨h, h'⟩

/-- A record of proper fields is proper, if it has any. -/
theorem ProperFields.record {fields : List (String × Value)} (h : ProperFields fields)
    (nonempty : fields ≠ []) : (Value.record fields).Proper :=
  .record nonempty (fun f hf => (h f hf).1) fun f hf => (h f hf).2

/-- What ends a line is printable. -/
theorem isPrintable_freshLine {cs : List Char} (h : ∀ c ∈ cs, isPrintable c = true) :
    ∀ c ∈ freshLine cs, isPrintable c = true := by
  have hfeed : ∀ c ∈ ['\n'], isPrintable c = true := List.forall_mem_singleton.2 (by decide)
  unfold freshLine
  split
  · exact h
  · exact List.forall_mem_append.2 ⟨h, hfeed⟩

/-- What pads a line is printable. -/
theorem isPrintable_padding (column : Nat) (inline : Bool) :
    ∀ c ∈ if inline then [] else spaces column, isPrintable c = true := by
  split
  · exact List.forall_mem_nil _
  · exact fun c hc => isPrintable_of_mem_spaces hc

/-- Items are printable, if each is wherever it is written. -/
theorem isPrintable_writeItems (column : Nat) (inline : Bool) {items : List Value}
    (h : ∀ item ∈ items, ∀ column dashed, ∀ c ∈ item.write column dashed, isPrintable c = true) :
    ∀ c ∈ writeItems column inline items, isPrintable c = true := by
  induction items generalizing inline with
  | nil =>
    rw [writeItems]
    exact List.forall_mem_nil _
  | cons item items ih =>
    obtain ⟨hitem, hitems⟩ := List.forall_mem_cons.1 h
    have hline := isPrintable_freshLine
      (List.forall_mem_cons.2 ⟨show isPrintable '-' = true from by decide, hitem column true⟩)
    rw [writeItems]
    exact List.forall_mem_append.2 ⟨List.forall_mem_append.2
      ⟨isPrintable_padding column inline, hline⟩, ih false hitems⟩

/-- Fields are printable, if each value is wherever it is written. -/
theorem isPrintable_writeFields (column : Nat) (inline : Bool) {fields : List (String × Value)}
    (hnames : ∀ f ∈ fields, IsFieldName f.1.toList)
    (h : ∀ f ∈ fields, ∀ column dashed, ∀ c ∈ f.2.write column dashed, isPrintable c = true) :
    ∀ c ∈ writeFields column inline fields, isPrintable c = true := by
  induction fields generalizing inline with
  | nil =>
    rw [writeFields]
    exact List.forall_mem_nil _
  | cons field fields ih =>
    obtain ⟨hname, hnames⟩ := List.forall_mem_cons.1 hnames
    obtain ⟨hvalue, hvalues⟩ := List.forall_mem_cons.1 h
    have hletters : ∀ c ∈ field.1.toList, isPrintable c = true := fun c hc =>
      isPrintable_of_isLower (hname.2.1 c hc)
    have hline := isPrintable_freshLine (List.forall_mem_append.2 ⟨hletters,
      List.forall_mem_cons.2 ⟨show isPrintable ':' = true from by decide, hvalue column false⟩⟩)
    rw [writeFields]
    exact List.forall_mem_append.2 ⟨List.forall_mem_append.2
      ⟨isPrintable_padding column inline, hline⟩, ih false hnames hvalues⟩

/-- **A proper value is written in printable characters.** -/
theorem isPrintable_write {v : Value} (h : v.Proper) (column : Nat) (dashed : Bool) :
    ∀ c ∈ v.write column dashed, isPrintable c = true := by
  induction h generalizing column dashed with
  | text s =>
    rw [write]
    exact List.forall_mem_cons.2 ⟨by decide, isPrintable_writeText _ _⟩
  | truth b =>
    rw [write, ← List.all_eq_true]
    cases b <;> decide
  | list nonempty proper ih =>
    obtain ⟨item, items, rfl⟩ := List.exists_cons_of_ne_nil nonempty
    rw [write]
    split
    · exact List.forall_mem_cons.2 ⟨by decide, isPrintable_writeItems _ _ ih⟩
    · exact List.forall_mem_cons.2 ⟨by decide, isPrintable_writeItems _ _ ih⟩
  | record nonempty named proper ih =>
    obtain ⟨field, fields, rfl⟩ := List.exists_cons_of_ne_nil nonempty
    rw [write]
    split
    · exact List.forall_mem_cons.2 ⟨by decide, isPrintable_writeFields _ _ named ih⟩
    · exact List.forall_mem_cons.2 ⟨by decide, isPrintable_writeFields _ _ named ih⟩

end Value

end Scaffolder.Yaml
