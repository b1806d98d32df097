import Mathlib.Tactic.Set
import Scaffolder.Proofs.Yaml.Steps

/-!
# Written values as tokens

The tokens of a written record are those of its fields, whatever the texts in it are
(`Value.tokens?_render`).

The induction is on the value, for every place where it may stand (`Scan.Reads`): behind the name of
a field or behind a dash, at any column, with any lists and mappings open around it and any word on
the line behind it. What a value opens is closed only at that word, and how much of it then depends
on the word, so `Scan.Reaches` keeps what is still to be closed apart from what was read.
-/

namespace Scaffolder.Yaml

namespace Value

/-- The text of a truth value. -/
def truthText (b : Bool) : List Char := (if b then "true" else "false").toList

mutual

/-- The tokens of a value behind the name of a field or, where `dashed` holds, behind a dash. -/
def tokens (dashed : Bool) : Value → List Token
  | .text s => [.scalar (styleOf s.toList) s.toList]
  | .truth b => [.scalar .plain (truthText b)]
  | .list items =>
      if dashed then .blockSequenceStart :: (itemTokens items ++ [.blockEnd]) else itemTokens items
  | .record fields => .blockMappingStart :: (fieldTokens fields ++ [.blockEnd])

/-- The tokens of the items of a list. -/
def itemTokens : List Value → List Token
  | [] => []
  | item :: items => .blockEntry :: (item.tokens true ++ itemTokens items)

/-- The tokens of the fields of a record. -/
def fieldTokens : List (String × Value) → List Token
  | [] => []
  | (name, value) :: fields =>
      .key :: .scalar .plain name.toList :: .value :: (value.tokens false ++ fieldTokens fields)

end

/-- A truth value is read as it is written. -/
theorem readsPlain_truthText (b : Bool) : ReadsPlain (truthText b) := by
  cases b with
  | true =>
    exact ⟨by simp [truthText, StaysPlain, isPrintable, isBreak], by decide, 't', rfl, by decide⟩
  | false =>
    exact ⟨by simp [truthText, StaysPlain, isPrintable, isBreak], by decide, 'f', rfl, by decide⟩

end Value

namespace Scan

variable {s t : Scan} {p q : Position} {word : List Char} {allowed : Bool} {tokens : List Token}
  {deeper indents : List Nat} {column m n : Nat}

/-- Whether reading on comes to a word at a column with the given lists and mappings open and the
given tokens read, once what is indented more than another column is closed. -/
def Reaches (n : Nat) (s : Scan) (word : List Char) (m column : Nat) (indents : List Nat)
    (tokens : List Token) : Prop :=
  ∃ t q read deeper, Leads n s t ∧
    t.settle? = some (stand q word true read (deeper ++ indents)) ∧ q.column = m ∧
    (∀ i ∈ deeper, column < i) ∧ ends deeper ++ read = tokens

/-- A state that leads to another reaches the word at which that stands. -/
theorem Leads.reaches (h : Leads n s t)
    (hsettle : t.settle? = some (stand q word true tokens indents)) (hq : q.column = m) :
    Reaches n s word m column indents tokens :=
  ⟨t, q, tokens, [], h, hsettle, hq, List.forall_mem_nil _, rfl⟩

/-- What leads to a state reaches what that does. -/
theorem Reaches.of_leads {k : Nat} (h : Leads k s t) (h' : Reaches n t word m column indents tokens) :
    Reaches (k + n) s word m column indents tokens := by
  obtain ⟨u, q, read, deeper, hleads, hrest⟩ := h'
  exact ⟨u, q, read, deeper, h.trans hleads, hrest⟩

/-- What is reached in some steps at most is reached in more at most. -/
theorem Reaches.mono {k : Nat} (h : Reaches n s word m column indents tokens) (hle : n ≤ k) :
    Reaches k s word m column indents tokens := by
  obtain ⟨u, q, read, deeper, hleads, hrest⟩ := h
  exact ⟨u, q, read, deeper, hleads.mono hle, hrest⟩

/-- What is indented more is closed with the rest. -/
theorem Reaches.close {k : Nat} (h : Reaches n s word m k (k :: indents) tokens) (hk : column < k) :
    Reaches n s word m column indents (.blockEnd :: tokens) := by
  obtain ⟨u, q, read, deeper, hleads, hsettle, hq, hdeeper, rfl⟩ := h
  refine ⟨u, q, read, deeper ++ [k], hleads, ?_, hq, ?_, ?_⟩
  · rw [hsettle, List.append_assoc, List.singleton_append]
  · intro i hi
    rcases List.mem_append.1 hi with hi | hi
    · exact Nat.lt_trans hk (hdeeper i hi)
    · rwa [List.mem_singleton.1 hi]
  · rw [ends_concat, List.cons_append]

/-- From a word that is reached reading goes on, with nothing more to open there. -/
theorem Reaches.andThen {k : Nat} {word' : List Char} {opener : Token} {more read : List Token}
    (h : Reaches n s word' column column indents read) (hopen : indents.head? = some column)
    (hnext : ∀ {t q tokens deeper},
      t.settle? = some (stand q word' true tokens (deeper ++ indents)) → q.column = column →
      (∀ i ∈ deeper, column < i) → Reaches k t word m column (opened column indents)
        (more ++ (opening column indents opener ++ (ends deeper ++ tokens)))) :
    Reaches (n + k) s word m column indents (more ++ read) := by
  obtain ⟨t, q, tokens, deeper, hleads, hsettle, hq, hdeeper, rfl⟩ := h
  have hrest := hnext hsettle hq hdeeper
  rw [opened_of_head? hopen, opening_of_head? hopen, List.nil_append] at hrest
  exact .of_leads hleads hrest

/-- What stands behind a dash and a space is two columns further. -/
theorem exists_settle?_dashed (tokens : List Token) (indents : List Nat) (hword : StartsWord word)
    (hp : p.column = column + 1) :
    ∃ q, (stand p (' ' :: word) true tokens indents).settle? =
      some (stand q word true tokens indents) ∧ q.column = column + 2 := by
  refine ⟨_, settle?_stand p 1 true tokens indents hword, ?_⟩
  rw [column_behind_spaces, hp]

/-- What stands on the next line is at its indentation. -/
theorem exists_settle?_below (p : Position) (k : Nat) (tokens : List Token) (indents : List Nat)
    (hword : StartsWord word) :
    ∃ q, (stand p ('\n' :: (Value.spaces k ++ word)) allowed tokens indents).settle? =
      some (stand q word true tokens indents) ∧ q.column = k := by
  refine ⟨_, settle?_line p k allowed tokens indents hword, ?_⟩
  rw [column_behind_spaces, Position.column_past_feed, Nat.zero_add]

/-- **A text is one token,** in the style that it is written in. -/
theorem reaches_text {cs : List Char} (hword : StartsWord word)
    (hindents : indents.head? = some column) (hcolumn : column < p.column) (hm : m ≤ column) :
    Reaches 1 (stand p (' ' :: (writeText (Value.spaces (column + 2)) cs ++
        (textEnd cs ++ (Value.spaces m ++ word)))) allowed tokens indents)
      word m column indents (.scalar (styleOf cs) cs :: tokens) := by
  obtain ⟨t, hnext, htokens, hsettle⟩ := next_text cs allowed tokens
    hword hindents hcolumn hm
  obtain ⟨front, c, hline, hc⟩ := Value.exists_writeText_line (column + 2) cs
  apply (leads_of_next hnext htokens (by simp)).reaches hsettle
  rw [← List.append_assoc, hline, ← List.cons_append, ← List.cons_append]
  exact column_behind_line p _ hc m

/-- **A truth value is one token.** -/
theorem reaches_truth {b : Bool} (hword : StartsWord word)
    (hindents : indents.head? = some column) (hcolumn : column < p.column) (hm : m ≤ column) :
    Reaches 1 (stand p (' ' :: (Value.truthText b ++ '\n' :: (Value.spaces m ++ word))) allowed tokens
      indents) word m column indents (.scalar .plain (Value.truthText b) :: tokens) := by
  have hplain := Value.readsPlain_truthText b
  have hcolumn' : column < (p.past ' ').column := by
    rw [p.column_past_space]
    omega
  obtain ⟨t, hnext, htokens, hsettle⟩ := next_plain
    (settle?_stand p 1 allowed tokens indents (hplain.startsWord _)) hplain hword hindents hcolumn' hm
  apply (leads_of_next hnext htokens (by simp)).reaches hsettle
  have hline := column_behind_line (p.past ' ') (Value.truthText b) (show isBreak '\n' = true from rfl) m
  rw [List.append_assoc, List.singleton_append] at hline
  exact hline

/-- Whether a value is read as it was written, wherever it stands. -/
def Reads (v : Value) : Prop :=
  ∀ (dashed : Bool) (column m : Nat) (p : Position) (word : List Char) (tokens : List Token)
    (indents : List Nat), StartsWord word → indents.head? = some column → column < p.column →
    (dashed = true → p.column = column + 1) → m ≤ column →
    Reaches (v.write column dashed).length
      (stand p (v.write column dashed ++ (v.ending ++ (Value.spaces m ++ word))) dashed tokens indents)
      word m column indents ((v.tokens dashed).reverse ++ tokens)

/-- A text is read as its tokens. -/
theorem reads_text (s : String) : Reads (.text s) := by
  intro dashed column m p word tokens indents hword hindents hcolumn _ hm
  rw [Value.write]
  exact (reaches_text hword hindents hcolumn hm).mono (by simp)

/-- A truth value is read as its tokens. -/
theorem reads_truth (b : Bool) : Reads (.truth b) := by
  intro dashed column m p word tokens indents hword hindents hcolumn _ hm
  rw [Value.write]
  exact (reaches_truth hword hindents hcolumn hm).mono (by simp)

/-- A dash and the item behind it are read. -/
theorem reaches_item {item : Value} (hitem : Reads item)
    (h : s.settle? = some (stand q
      ('-' :: (item.write column true ++ (item.ending ++ (Value.spaces m ++ word)))) true tokens
      (deeper ++ indents)))
    (hq : q.column = column) (hword : StartsWord word) (hdeeper : ∀ i ∈ deeper, column < i)
    (hindents : ∀ i ∈ indents.head?, i ≤ column) (hm : m ≤ column) :
    Reaches (1 + (item.write column true).length) s word m column (opened column indents)
      ((item.tokens true).reverse ++ .blockEntry ::
        (opening column indents .blockSequenceStart ++ (ends deeper ++ tokens))) := by
  subst hq
  obtain ⟨more, hmore⟩ := Value.exists_write_true q.column item
  have hcolumn : (q.past '-').column = q.column + 1 := q.column_past rfl
  rw [hmore, List.cons_append] at h
  have hdash := leads_of_next (next_dash h hdeeper hindents) rfl (by simp)
  rw [← List.cons_append, ← hmore] at hdash
  exact .of_leads hdash (hitem true q.column m (q.past '-') word _ _ hword
    (head?_opened q.column indents) (by omega) (fun _ => hcolumn) hm)

/-- The items of a list are read, one after another. -/
theorem reaches_items (deeper : List Nat) {items : List Value} (hne : items ≠ [])
    (hitems : ∀ item ∈ items, Reads item)
    (h : s.settle? = some (stand q (Value.writeItems column true items ++ (Value.spaces m ++ word))
      true tokens (deeper ++ indents)))
    (hq : q.column = column) (hword : StartsWord word) (hdeeper : ∀ i ∈ deeper, column < i)
    (hindents : ∀ i ∈ indents.head?, i ≤ column) (hm : m ≤ column) :
    Reaches (Value.writeItems column true items).length s word m column (opened column indents)
      ((Value.itemTokens items).reverse ++
        (opening column indents .blockSequenceStart ++ (ends deeper ++ tokens))) := by
  induction items generalizing s q tokens deeper indents with
  | nil => exact absurd rfl hne
  | cons item items ih =>
    have hitem := hitems item List.mem_cons_self
    rw [Value.writeItems_cons, List.cons_append, List.append_assoc, List.append_assoc] at h
    rw [Value.writeItems_cons, Value.itemTokens]
    cases items with
    | nil =>
      rw [Value.writeItems, List.nil_append] at h
      have hread := reaches_item hitem h hq hword hdeeper hindents hm
      rw [Value.itemTokens, Value.writeItems]
      simp only [List.append_nil, List.reverse_cons, List.append_assoc, List.singleton_append]
      exact hread.mono (by simp; omega)
    | cons next rest =>
      rw [Value.writeItems_false, List.append_assoc] at h
      have hread := reaches_item hitem h hq (Value.startsWord_writeItems _ _ _ _) hdeeper hindents
        (Nat.le_refl _)
      have hopened := head?_opened column indents
      have hboth := hread.andThen hopened fun hsettle hq' hdeeper' =>
        ih _ (List.cons_ne_nil _ _) (fun i hi => hitems i (List.mem_cons_of_mem _ hi)) hsettle hq'
          hdeeper' (le_of_head? hopened (Nat.le_refl _))
      have hlength : 1 + (item.write column true).length +
          (Value.writeItems column true (next :: rest)).length ≤
            ('-' :: (item.write column true ++ (item.ending ++
              Value.writeItems column false (next :: rest)))).length := by
        rw [Value.writeItems_false]
        simp only [List.length_cons, List.length_append]
        omega
      simp only [List.reverse_cons, List.reverse_append, List.append_assoc, List.singleton_append]
      exact hboth.mono hlength

/-- A name and the value of the field are read. -/
theorem reaches_field {name : List Char} {value : Value} (hname : IsFieldName name)
    (hvalue : Reads value)
    (h : s.settle? = some (stand q
      (name ++ ':' :: (value.write column false ++ (value.ending ++ (Value.spaces m ++ word)))) true
      tokens (deeper ++ indents)))
    (hq : q.column = column) (hword : StartsWord word) (hdeeper : ∀ i ∈ deeper, column < i)
    (hindents : ∀ i ∈ indents.head?, i ≤ column) (hm : m ≤ column) :
    Reaches (1 + (1 + (value.write column false).length)) s word m column (opened column indents)
      ((value.tokens false).reverse ++ .value :: .scalar .plain name :: .key ::
        (opening column indents .blockMappingStart ++ (ends deeper ++ tokens))) := by
  subst hq
  set more := value.write q.column false ++ (value.ending ++ (Value.spaces m ++ word)) with hmore
  have hhead : more.head? = some ' ' ∨ more.head? = some '\n' := by
    rw [hmore, List.head?_append]
    rcases Value.head?_write_false q.column value with h | h
    · exact .inl (by rw [h]; rfl)
    · exact .inr (by rw [h]; rfl)
  have hcolumn : q.column < ((q.behind name).past ':').column := by
    rw [Position.column_past _ rfl, (q.behind_name hname.2.1).2.1]
    omega
  have hnext := leads_of_next (next_name hname hhead h hdeeper hindents) rfl (by simp)
  have hcolon := next_colon (ends deeper ++ tokens) hname hhead hindents
  refine .of_leads hnext (.of_leads (leads_of_next hcolon rfl (by simp)) ?_)
  exact hvalue false q.column m ((q.behind name).past ':') word _ _ hword
    (head?_opened q.column indents) hcolumn (fun hfalse => by cases hfalse) hm

/-- The fields of a record are read, one after another. -/
theorem reaches_fields (deeper : List Nat) {fields : List (String × Value)} (hne : fields ≠ [])
    (hnames : ∀ f ∈ fields, IsFieldName f.1.toList) (hvalues : ∀ f ∈ fields, Reads f.2)
    (h : s.settle? = some (stand q (Value.writeFields column true fields ++ (Value.spaces m ++ word))
      true tokens (deeper ++ indents)))
    (hq : q.column = column) (hword : StartsWord word) (hdeeper : ∀ i ∈ deeper, column < i)
    (hindents : ∀ i ∈ indents.head?, i ≤ column) (hm : m ≤ column) :
    Reaches (Value.writeFields column true fields).length s word m column (opened column indents)
      ((Value.fieldTokens fields).reverse ++
        (opening column indents .blockMappingStart ++ (ends deeper ++ tokens))) := by
  induction fields generalizing s q tokens deeper indents with
  | nil => exact absurd rfl hne
  | cons field fields ih =>
    obtain ⟨name, value⟩ := field
    have hname : IsFieldName name.toList := hnames _ List.mem_cons_self
    have hvalue : Reads value := hvalues _ List.mem_cons_self
    have hpos : 0 < name.toList.length := List.length_pos_iff.2 hname.1
    rw [Value.writeFields_cons, List.append_assoc, List.cons_append, List.append_assoc,
      List.append_assoc] at h
    rw [Value.writeFields_cons, Value.fieldTokens]
    cases fields with
    | nil =>
      rw [Value.writeFields, List.nil_append] at h
      have hread := reaches_field hname hvalue h hq hword hdeeper hindents hm
      rw [Value.fieldTokens, Value.writeFields]
      simp only [List.append_nil, List.reverse_cons, List.append_assoc, List.singleton_append]
      exact hread.mono (by simp only [List.length_append, List.length_cons]; omega)
    | cons next rest =>
      rw [Value.writeFields_false, List.append_assoc] at h
      have hnext : IsFieldName next.1.toList := hnames _ (List.mem_cons_of_mem _ List.mem_cons_self)
      have hread := reaches_field hname hvalue h hq (Value.startsWord_writeFields _ hnext _ _) hdeeper
        hindents (Nat.le_refl _)
      have hopened := head?_opened column indents
      have hboth := hread.andThen hopened fun hsettle hq' hdeeper' =>
        ih _ (List.cons_ne_nil _ _) (fun f hf => hnames f (List.mem_cons_of_mem _ hf))
          (fun f hf => hvalues f (List.mem_cons_of_mem _ hf)) hsettle hq' hdeeper'
          (le_of_head? hopened (Nat.le_refl _))
      have hlength : 1 + (1 + (value.write column false).length) +
          (Value.writeFields column true (next :: rest)).length ≤
            (name.toList ++ ':' :: (value.write column false ++ (value.ending ++
              Value.writeFields column false (next :: rest)))).length := by
        rw [Value.writeFields_false]
        simp only [List.length_cons, List.length_append]
        omega
      simp only [List.reverse_cons, List.reverse_append, List.append_assoc, List.singleton_append]
      exact hboth.mono hlength

/-- What is opened for a value is closed with it. -/
theorem Reaches.inside {k : Nat} {token : Token} {read : List Token}
    (h : Reaches n s word m k (opened k indents) (read ++ (opening k indents token ++ tokens)))
    (hindents : indents.head? = some column) (hk : column < k) :
    Reaches n s word m column indents (.blockEnd :: (read ++ token :: tokens)) := by
  rw [opened_of_lt hindents hk, opening_of_lt hindents hk] at h
  exact h.close hk

/-- **A list is read as its tokens,** if its items are. -/
theorem reads_list {items : List Value} (hne : items ≠ []) (hitems : ∀ item ∈ items, Reads item) :
    Reads (.list items) := by
  intro dashed column m p word tokens indents hword hindents hcolumn hdashed hm
  obtain ⟨item, items, rfl⟩ := List.exists_cons_of_ne_nil hne
  rw [Value.write, Value.tokens]
  cases dashed with
  | true =>
    obtain ⟨q, hsettle, hq⟩ := exists_settle?_dashed tokens indents
      (Value.startsWord_writeItems (column + 2) item items (Value.spaces m ++ word)) (hdashed rfl)
    have hread := reaches_items [] hne hitems hsettle hq hword (List.forall_mem_nil _)
      (le_of_head? hindents (by omega)) (by omega)
    have hinside := hread.inside hindents (by omega)
    simp only [↓reduceIte, List.reverse_cons, List.reverse_append, List.append_assoc,
      List.singleton_append]
    exact hinside.mono (by simp [Value.indentStep])
  | false =>
    obtain ⟨q, hsettle, hq⟩ := exists_settle?_below p column tokens indents
      (Value.startsWord_writeItems column item items (Value.spaces m ++ word))
    have hread := reaches_items [] hne hitems hsettle hq hword (List.forall_mem_nil _)
      (le_of_head? hindents (Nat.le_refl _)) hm
    rw [opened_of_head? hindents, opening_of_head? hindents] at hread
    rw [Value.writeItems_false]
    simp only [Bool.false_eq_true, ↓reduceIte, List.cons_append, List.append_assoc]
    exact hread.mono (by simp only [List.length_cons, List.length_append]; omega)

/-- **A record is read as its tokens,** if its values are. -/
theorem reads_record {fields : List (String × Value)} (hne : fields ≠ [])
    (hnames : ∀ f ∈ fields, IsFieldName f.1.toList) (hvalues : ∀ f ∈ fields, Reads f.2) :
    Reads (.record fields) := by
  intro dashed column m p word tokens indents hword hindents hcolumn hdashed hm
  obtain ⟨field, fields, rfl⟩ := List.exists_cons_of_ne_nil hne
  have hfirst := Value.startsWord_writeFields (column + 2) (hnames field List.mem_cons_self) fields
    (Value.spaces m ++ word)
  rw [Value.write, Value.tokens]
  cases dashed with
  | true =>
    obtain ⟨q, hsettle, hq⟩ := exists_settle?_dashed tokens indents hfirst (hdashed rfl)
    have hread := reaches_fields [] hne hnames hvalues hsettle hq hword
      (List.forall_mem_nil _) (le_of_head? hindents (by omega)) (by omega)
    have hinside := hread.inside hindents (by omega)
    simp only [↓reduceIte, List.reverse_cons, List.reverse_append, List.append_assoc,
      List.singleton_append]
    exact hinside.mono (by simp [Value.indentStep])
  | false =>
    obtain ⟨q, hsettle, hq⟩ := exists_settle?_below p (column + 2) tokens indents hfirst
    have hread := reaches_fields [] hne hnames hvalues hsettle hq hword
      (List.forall_mem_nil _) (le_of_head? hindents (by omega)) (by omega)
    have hinside := hread.inside hindents (by omega)
    rw [Value.writeFields_false]
    simp only [Bool.false_eq_true, ↓reduceIte, List.cons_append, List.append_assoc,
      List.reverse_cons, List.reverse_append]
    exact hinside.mono (by simp [Value.indentStep]; omega)

/-- **A proper value is read as it was written.** -/
theorem reads_of_proper {v : Value} (h : v.Proper) : Reads v := by
  induction h with
  | text s => exact reads_text s
  | truth b => exact reads_truth b
  | list nonempty proper ih => exact reads_list nonempty ih
  | record nonempty named proper ih => exact reads_record nonempty named ih

end Scan

/-! ## Whole texts -/

namespace Value

/-- The tokens of a text are those that are read from its start on. -/
theorem tokens?_eq {cs : List Char} {ts : List Token} (hcs : ∀ c ∈ cs, isPrintable c = true)
    (h : Scan.toEnd (1 + cs.length) (Scan.stand ⟨0, 0, 0⟩ cs true [] []) = some ts) :
    tokens? cs = some ts := by
  have hallowed : cs.all isAllowed = true :=
    List.all_eq_true.2 fun c hc => isAllowed_of_isPrintable (hcs c hc)
  have hspots : spots? cs = some ((⟨0, 0, 0⟩ : Position).spots cs) := if_pos hallowed
  have hfuel : ((⟨0, 0, 0⟩ : Position).spots cs).length + 1 = 1 + cs.length + 1 := by
    rw [Position.length_spots _ hcs]
    omega
  unfold tokens?
  rw [hspots, Option.bind_eq_bind, Option.bind_some, hfuel]
  exact Scan.toEnd_succ h

/-- **A record is read as it was written.** -/
theorem tokens?_render {fields : List (String × Value)} (h : (record fields).Proper) :
    tokens? (record fields).render.toList =
      some ((record fields).tokens false ++ [.streamEnd]) := by
  obtain ⟨nonempty, named, proper⟩ : fields ≠ [] ∧ (∀ f ∈ fields, IsFieldName f.1.toList) ∧
      ∀ f ∈ fields, f.2.Proper := by
    cases h with
    | record nonempty named proper => exact ⟨nonempty, named, proper⟩
  obtain ⟨field, fields, rfl⟩ := List.exists_cons_of_ne_nil nonempty
  have hwritten : (record (field :: fields)).render.toList = writeFields 0 true (field :: fields) := by
    rw [render, String.toList_ofList, writeFields_false]
    rfl
  have hprint := isPrintable_writeFields 0 true named fun f hf => isPrintable_write (proper f hf)
  have hstart := startsWord_writeFields 0 (named field List.mem_cons_self) fields (spaces 0 ++ [])
  have hidle : ∀ i ∈ ([] : List Nat).head?, i ≤ 0 := fun i hi => by cases hi
  have hsettle := Scan.settle?_stand ⟨0, 0, 0⟩ 0 true [] ([] ++ []) hstart
  have hread := Scan.reaches_fields [] nonempty named (fun f hf => Scan.reads_of_proper (proper f hf))
    hsettle rfl startsWord_nil (List.forall_mem_nil _) hidle (Nat.le_refl 0)
  obtain ⟨t, q, read, deeper, hleads, hend, hq, hdeeper, htokens⟩ := hread
  have hopen := Scan.le_of_head? (Scan.head?_opened 0 []) (Nat.zero_le q.column)
  obtain ⟨u, hnext, hu⟩ := Scan.next_end hend (fun i hi => hq ▸ hdeeper i hi) hopen
  have hlast := hleads 1 _ (Scan.toEnd_of_next hnext hu)
  rw [show writeFields 0 true (field :: fields) ++ (spaces 0 ++ []) =
    writeFields 0 true (field :: fields) from List.append_nil _] at hlast
  have htext : u.tokens.reverse = (record (field :: fields)).tokens false ++ [.streamEnd] := by
    rw [hu, htokens, tokens]
    simp [Scan.ends, Scan.opened, Scan.opening]
  rw [hwritten, ← htext]
  exact tokens?_eq hprint hlast

end Value

end Scaffolder.Yaml
