import Scaffolder.Proofs.Yaml.Tokens
import Scaffolder.Yaml.Document

/-!
# Written values as documents

The tokens of a written record are read as one node (`Document.parse?_render`), with as much fuel as
a reader of whole texts has.

An operation that uses neither anchors nor handles only moves on in the tokens (`Read.Takes`). There
is one lemma for each thing that an operation meets in the tokens of a value; the inductions over
items, fields and values then follow the recursion of the operations.
-/

namespace Scaffolder.Yaml

namespace Value

mutual

/-- The node of a value. -/
def node : Value → Node
  | .text s => .scalar none (styleOf s.toList) s.toList
  | .truth b => .scalar none .plain (truthText b)
  | .list items => .list none (itemNodes items)
  | .record fields => .record none (fieldNodes fields)

/-- The nodes of the items of a list. -/
def itemNodes : List Value → List Node
  | [] => []
  | item :: items => item.node :: itemNodes items

/-- The nodes of the fields of a record. -/
def fieldNodes : List (String × Value) → List (Node × Node)
  | [] => []
  | (name, value) :: fields =>
      (.scalar none .plain name.toList, value.node) :: fieldNodes fields

end

/-- No value starts with a mark of a key or of an end, and behind a dash none starts with a dash. -/
theorem Proper.exists_tokens {v : Value} (h : v.Proper) (dashed : Bool) :
    ∃ t ts, v.tokens dashed = t :: ts ∧ [Token.key, .value, .blockEnd].contains t = false ∧
      (dashed = true → t ≠ .blockEntry) := by
  cases h with
  | text s => exact ⟨_, _, by rw [tokens], rfl, fun _ => by simp⟩
  | truth b => exact ⟨_, _, by rw [tokens], rfl, fun _ => by simp⟩
  | record nonempty named proper => exact ⟨_, _, by rw [tokens], rfl, fun _ => by simp⟩
  | list nonempty proper =>
    obtain ⟨item, items, rfl⟩ := List.exists_cons_of_ne_nil nonempty
    cases dashed with
    | true => exact ⟨_, _, by rw [tokens]; rfl, rfl, fun _ => by simp⟩
    | false => exact ⟨_, _, by rw [tokens, itemTokens]; rfl, rfl, fun h => by cases h⟩

end Value

namespace Read

/-- Whether an operation reads a value from the first of some tokens, up to the rest, whatever
anchors and handles there are. -/
def Takes {α : Type} (r : Read α) (ts rest : List Token) (a : α) : Prop :=
  ∀ s : Reading, s.tokens = ts → r s = some (a, { s with tokens := rest })

section

variable {α β : Type} {r : Read α} {f : α → Read β} {ts us rest : List Token} {a : α} {b : β}

/-- What is given is taken from no tokens. -/
theorem Takes.pure (a : α) (ts : List Token) : Takes (Pure.pure a) ts ts a := by
  rintro s rfl
  rfl

/-- Operations take one after another. -/
theorem Takes.bind (h : Takes r ts us a) (h' : Takes (f a) us rest b) :
    Takes (r >>= f) ts rest b := by
  intro s hs
  show (r s).bind (fun x => f x.1 x.2) = _
  rw [h s hs, Option.bind_some, h' _ rfl]

/-- To look at a token leaves it. -/
theorem takes_peek (t : Token) (ts : List Token) : Takes peek (t :: ts) (t :: ts) t := by
  rintro ⟨tokens, handles, names, holders, finished⟩ hs
  obtain rfl : tokens = t :: ts := hs
  rfl

/-- To skip a token takes it. -/
theorem takes_skip (t : Token) (ts : List Token) : Takes skip (t :: ts) ts () := by
  rintro ⟨tokens, handles, names, holders, finished⟩ hs
  obtain rfl : tokens = t :: ts := hs
  rfl

/-- The token that is asked for is passed over. -/
theorem takes_accept (t : Token) (ts : List Token) : Takes (accept t) (t :: ts) ts true := by
  refine .bind (takes_peek t ts) ?_
  rw [if_pos rfl]
  exact .bind (takes_skip t ts) (.pure true ts)

/-- Another token stays where it is. -/
theorem takes_accept_of_ne {t : Token} (h : ts.head? ≠ some t) (ht : t ≠ .streamEnd) :
    Takes (accept t) ts ts false := by
  intro s hs
  have hne : s.tokens.head?.getD .streamEnd ≠ t := by
    rw [hs]
    cases ts with
    | nil => exact Ne.symm ht
    | cons u us =>
      rintro rfl
      exact h rfl
  show (if s.tokens.head?.getD .streamEnd = t then (do skip; Pure.pure true : Read Bool)
    else Pure.pure false) s = _
  rw [if_neg hne, ← hs]
  rfl

end

section

variable {n : Nat} {ts us rest : List Token} {inLines dashes : Bool} {item : Node}
  {items : List Node} {entries : List (Node × Node)}

/-- A scalar is a node. -/
theorem takes_node_scalar (style : ScalarStyle) (text : List Char) :
    Takes (node inLines dashes (n + 1)) (.scalar style text :: rest) rest
      (.scalar none style text) := by
  rintro ⟨tokens, handles, names, holders, finished⟩ hs
  obtain rfl : tokens = .scalar style text :: rest := hs
  rfl

/-- Items behind a name are a list, also without a token that opens one. -/
theorem takes_node_dashed (h : Takes (dashedItems n) (.blockEntry :: ts) rest items) :
    Takes (node inLines true (n + 1)) (.blockEntry :: ts) rest (.list none items) := by
  rintro ⟨tokens, handles, names, holders, finished⟩ hs
  have hread := h ⟨tokens, handles, names, holders, finished⟩ hs
  obtain rfl : tokens = .blockEntry :: ts := hs
  show ((dashedItems n ⟨.blockEntry :: ts, handles, names, holders, finished⟩).bind _) = _
  rw [hread]
  rfl

/-- An opened list with its items is a node. -/
theorem takes_node_list (h : Takes (blockItems n) ts rest items) :
    Takes (node true dashes (n + 1)) (.blockSequenceStart :: ts) rest (.list none items) := by
  rintro ⟨tokens, handles, names, holders, finished⟩ hs
  have hread := h ⟨ts, handles, names, holders, finished⟩ rfl
  obtain rfl : tokens = .blockSequenceStart :: ts := hs
  show ((blockItems n ⟨ts, handles, names, holders, finished⟩).bind _) = _
  rw [hread]
  rfl

/-- An opened record with its fields is a node. -/
theorem takes_node_record (h : Takes (blockEntries n) ts rest entries) :
    Takes (node true dashes (n + 1)) (.blockMappingStart :: ts) rest (.record none entries) := by
  rintro ⟨tokens, handles, names, holders, finished⟩ hs
  have hread := h ⟨ts, handles, names, holders, finished⟩ rfl
  obtain rfl : tokens = .blockMappingStart :: ts := hs
  show ((blockEntries n ⟨ts, handles, names, holders, finished⟩).bind _) = _
  rw [hread]
  rfl

/-- A node is read where no token stands that would leave it out. -/
theorem takes_nodeUnless {stops : List Token} {t : Token} (ht : stops.contains t = false)
    (h : Takes (node inLines dashes n) (t :: ts) rest item) :
    Takes (nodeUnless stops inLines dashes (n + 1)) (t :: ts) rest item := by
  have hstop : Takes (atOneOf stops) (t :: ts) (t :: ts) false := by
    refine .bind (takes_peek t ts) ?_
    rw [ht]
    exact .pure false _
  rw [nodeUnless]
  exact .bind hstop h

/-- An item behind a dash, and the others. -/
theorem takes_dashedItems_cons
    (hitem : Takes (nodeUnless [.blockEntry, .key, .value, .blockEnd] true false n) ts us item)
    (hitems : Takes (dashedItems n) us rest items) :
    Takes (dashedItems (n + 1)) (.blockEntry :: ts) rest (item :: items) := by
  rw [dashedItems]
  exact .bind (takes_accept .blockEntry ts) (.bind hitem (.bind hitems (.pure _ rest)))

/-- Items without a token that closes them end where no dash comes. -/
theorem takes_dashedItems_nil (h : rest.head? ≠ some .blockEntry) :
    Takes (dashedItems (n + 1)) rest rest [] := by
  rw [dashedItems]
  exact .bind (takes_accept_of_ne h (by simp)) (.pure [] rest)

/-- An item of an opened list, and the others. -/
theorem takes_blockItems_cons
    (hitem : Takes (nodeUnless [.blockEntry, .blockEnd] true false n) ts us item)
    (hitems : Takes (blockItems n) us rest items) :
    Takes (blockItems (n + 1)) (.blockEntry :: ts) rest (item :: items) := by
  rw [blockItems]
  exact .bind (takes_accept .blockEntry ts) (.bind hitem (.bind hitems (.pure _ rest)))

/-- An opened list ends where it is closed. -/
theorem takes_blockItems_nil : Takes (blockItems (n + 1)) (.blockEnd :: rest) rest [] := by
  rw [blockItems]
  refine .bind (takes_accept_of_ne (by simp) (by simp)) ?_
  exact .bind (takes_accept .blockEnd rest) (.pure [] rest)

/-- A field with a plain name, and the others. -/
theorem takes_blockEntries_cons (name : List Char) {value : Node}
    (hvalue : Takes (nodeUnless [.key, .value, .blockEnd] true true (n + 2)) ts us value)
    (hentries : Takes (blockEntries (n + 2)) us rest entries) :
    Takes (blockEntries (n + 3)) (.key :: .scalar .plain name :: .value :: ts) rest
      ((.scalar none .plain name, value) :: entries) := by
  have hname : Takes (nodeUnless [.key, .value, .blockEnd] true true (n + 2))
      (.scalar .plain name :: .value :: ts) (.value :: ts) (.scalar none .plain name) :=
    takes_nodeUnless rfl (takes_node_scalar .plain name)
  rw [blockEntries]
  refine .bind (takes_accept .key _) (.bind hname ?_)
  exact .bind (takes_accept .value ts) (.bind hvalue (.bind hentries (.pure _ rest)))

/-- An opened record ends where it is closed. -/
theorem takes_blockEntries_nil : Takes (blockEntries (n + 1)) (.blockEnd :: rest) rest [] := by
  rw [blockEntries]
  refine .bind (takes_accept_of_ne (by simp) (by simp)) ?_
  exact .bind (takes_accept .blockEnd rest) (.pure [] rest)

/-- Whether the tokens of a value are read as its node, whatever follows them. -/
def ReadsNode (v : Value) : Prop :=
  ∀ (dashed : Bool) (n : Nat) (rest : List Token), 4 * (v.tokens dashed).length ≤ n →
    (dashed = false → rest.head? ≠ some .blockEntry) →
    Takes (node true (!dashed) n) (v.tokens dashed ++ rest) rest v.node

/-- Where a value may be left out, one that is there is read. -/
theorem takes_value (stops : List Token) {v : Value} (hv : v.Proper) (hreads : ReadsNode v)
    (dashed : Bool)
    (hstops : ∀ t ∈ stops, t ∈ [.key, .value, .blockEnd] ∨ dashed = true ∧ t = .blockEntry)
    (hn : 4 * (v.tokens dashed).length < n) (hrest : dashed = false → rest.head? ≠ some .blockEntry) :
    Takes (nodeUnless stops true (!dashed) n) (v.tokens dashed ++ rest) rest v.node := by
  obtain ⟨t, ts, htokens, hmark, hdash⟩ := hv.exists_tokens dashed
  obtain ⟨k, rfl⟩ : ∃ k, n = k + 1 := ⟨n - 1, by omega⟩
  have hread := hreads dashed k rest (by omega) hrest
  have ht : stops.contains t = false := by
    rw [← Bool.not_eq_true, List.contains_iff_mem]
    intro hmem
    rcases hstops t hmem with h | ⟨hd, rfl⟩
    · rw [List.contains_iff_mem.2 h] at hmark
      cases hmark
    · exact hdash hd rfl
  rw [htokens, List.cons_append] at hread ⊢
  exact takes_nodeUnless ht hread

/-- **All items behind a name are read,** if each is. The count of tokens bounds the depth of the
reading. -/
theorem takes_dashedItems {items : List Value} (hproper : ∀ item ∈ items, item.Proper)
    (hitems : ∀ item ∈ items, ReadsNode item) (hn : 4 * (Value.itemTokens items).length ≤ n + 1)
    (hpos : 0 < n) (hrest : rest.head? ≠ some .blockEntry) :
    Takes (dashedItems n) (Value.itemTokens items ++ rest) rest (Value.itemNodes items) := by
  induction items generalizing n with
  | nil =>
    obtain ⟨k, rfl⟩ : ∃ k, n = k + 1 := ⟨n - 1, by omega⟩
    rw [Value.itemTokens, Value.itemNodes]
    exact takes_dashedItems_nil hrest
  | cons item items ih =>
    obtain ⟨hp, hps⟩ := List.forall_mem_cons.1 hproper
    obtain ⟨hitem, hitems⟩ := List.forall_mem_cons.1 hitems
    obtain ⟨k, rfl⟩ : ∃ k, n = k + 1 := ⟨n - 1, by omega⟩
    rw [Value.itemTokens, List.length_cons, List.length_append] at hn
    rw [Value.itemTokens, Value.itemNodes, List.cons_append, List.append_assoc]
    refine takes_dashedItems_cons ?_ (ih hps hitems (by omega) (by omega))
    exact takes_value [.blockEntry, .key, .value, .blockEnd] hp hitem true (by simp) (by omega)
      (by simp)

/-- **All items of an opened list are read,** if each is. -/
theorem takes_blockItems {items : List Value} (hproper : ∀ item ∈ items, item.Proper)
    (hitems : ∀ item ∈ items, ReadsNode item) (hn : 4 * (Value.itemTokens items).length ≤ n + 1)
    (hpos : 0 < n) :
    Takes (blockItems n) (Value.itemTokens items ++ .blockEnd :: rest) rest
      (Value.itemNodes items) := by
  induction items generalizing n with
  | nil =>
    obtain ⟨k, rfl⟩ : ∃ k, n = k + 1 := ⟨n - 1, by omega⟩
    rw [Value.itemTokens, Value.itemNodes]
    exact takes_blockItems_nil
  | cons item items ih =>
    obtain ⟨hp, hps⟩ := List.forall_mem_cons.1 hproper
    obtain ⟨hitem, hitems⟩ := List.forall_mem_cons.1 hitems
    obtain ⟨k, rfl⟩ : ∃ k, n = k + 1 := ⟨n - 1, by omega⟩
    rw [Value.itemTokens, List.length_cons, List.length_append] at hn
    rw [Value.itemTokens, Value.itemNodes, List.cons_append, List.append_assoc]
    refine takes_blockItems_cons ?_ (ih hps hitems (by omega) (by omega))
    exact takes_value [.blockEntry, .blockEnd] hp hitem true (by simp) (by omega) (by simp)

/-- **All fields are read,** if each value is. -/
theorem takes_blockEntries {fields : List (String × Value)} (hproper : ∀ f ∈ fields, f.2.Proper)
    (hvalues : ∀ f ∈ fields, ReadsNode f.2) (hn : 4 * (Value.fieldTokens fields).length ≤ n + 1)
    (hpos : 0 < n) :
    Takes (blockEntries n) (Value.fieldTokens fields ++ .blockEnd :: rest) rest
      (Value.fieldNodes fields) := by
  induction fields generalizing n with
  | nil =>
    obtain ⟨k, rfl⟩ : ∃ k, n = k + 1 := ⟨n - 1, by omega⟩
    rw [Value.fieldTokens, Value.fieldNodes]
    exact takes_blockEntries_nil
  | cons field fields ih =>
    obtain ⟨hp, hps⟩ := List.forall_mem_cons.1 hproper
    obtain ⟨hvalue, hvalues⟩ := List.forall_mem_cons.1 hvalues
    rw [Value.fieldTokens] at hn
    simp only [List.length_cons, List.length_append] at hn
    obtain ⟨k, rfl⟩ : ∃ k, n = k + 1 + 1 + 1 := ⟨n - 3, by omega⟩
    have hbehind : (Value.fieldTokens fields ++ .blockEnd :: rest).head? ≠ some .blockEntry := by
      cases fields with
      | nil => simp [Value.fieldTokens]
      | cons next fields => simp [Value.fieldTokens]
    rw [Value.fieldTokens, Value.fieldNodes]
    simp only [List.cons_append, List.append_assoc]
    refine takes_blockEntries_cons field.1.toList ?_ (ih hps hvalues (by omega) (by omega))
    exact takes_value [.key, .value, .blockEnd] hp hvalue false (fun t ht => .inl ht) (by omega)
      fun _ => hbehind

/-- **The tokens of a proper value are read as its node.** -/
theorem readsNode_of_proper {v : Value} (h : v.Proper) : ReadsNode v := by
  induction h with
  | text s =>
    intro dashed n rest hn _
    rw [Value.tokens] at hn ⊢
    obtain ⟨k, rfl⟩ : ∃ k, n = k + 1 := ⟨n - 1, by simp at hn; omega⟩
    rw [Value.node]
    exact takes_node_scalar _ _
  | truth b =>
    intro dashed n rest hn _
    rw [Value.tokens] at hn ⊢
    obtain ⟨k, rfl⟩ : ∃ k, n = k + 1 := ⟨n - 1, by simp at hn; omega⟩
    rw [Value.node]
    exact takes_node_scalar _ _
  | list nonempty proper ih =>
    intro dashed n rest hn hrest
    obtain ⟨item, items, rfl⟩ := List.exists_cons_of_ne_nil nonempty
    rw [Value.tokens] at hn ⊢
    rw [Value.node]
    cases dashed with
    | true =>
      simp only [↓reduceIte, List.length_cons, List.length_append] at hn
      obtain ⟨k, rfl⟩ : ∃ k, n = k + 1 := ⟨n - 1, by omega⟩
      simp only [↓reduceIte, List.cons_append, List.append_assoc]
      exact takes_node_list (takes_blockItems proper ih (by omega) (by omega))
    | false =>
      simp only [Bool.false_eq_true, ↓reduceIte] at hn ⊢
      have hpos : 0 < (Value.itemTokens (item :: items)).length := by
        rw [Value.itemTokens]
        exact Nat.succ_pos _
      obtain ⟨k, rfl⟩ : ∃ k, n = k + 1 := ⟨n - 1, by omega⟩
      have hitems : Takes (dashedItems k) _ _ _ :=
        takes_dashedItems proper ih (by omega) (by omega) (hrest rfl)
      rw [Value.itemTokens] at hitems ⊢
      exact takes_node_dashed hitems
  | record nonempty named proper ih =>
    intro dashed n rest hn _
    rw [Value.tokens] at hn ⊢
    rw [Value.node]
    simp only [List.length_cons, List.length_append] at hn
    obtain ⟨k, rfl⟩ : ∃ k, n = k + 1 := ⟨n - 1, by omega⟩
    simp only [List.cons_append, List.append_assoc]
    exact takes_node_record (takes_blockEntries proper ih (by omega) (by omega))

end

end Read

namespace Document

/-- Tokens that are read as one node are the document with that root. -/
theorem ofTokens?_eq {ts : List Token} {node : Node} (hstart : ts.head? = some .blockMappingStart)
    (h : Read.Takes (Read.node true false (4 * ts.length + 8)) ts [.streamEnd] node) :
    ofTokens? ts = some ⟨some node, []⟩ := by
  obtain ⟨us, rfl⟩ := List.head?_eq_some_iff.1 hstart
  have hread := h ⟨.blockMappingStart :: us, standardHandles, [], [], []⟩ rfl
  have hroot : Read.root (4 * (Token.blockMappingStart :: us).length + 8)
      ⟨.blockMappingStart :: us, standardHandles, [], [], []⟩ =
        some (some node, ⟨[.streamEnd], standardHandles, [], [], []⟩) := by
    show ((Read.node true false _
      ⟨.blockMappingStart :: us, standardHandles, [], [], []⟩).bind _) = _
    rw [hread]
    rfl
  unfold ofTokens?
  show ((Read.root _ ⟨.blockMappingStart :: us, standardHandles, [], [], []⟩).bind _) = _
  rw [hroot]
  rfl

/-- **A written record is read as the document whose root is its node,** without anchors. -/
theorem parse?_render {fields : List (String × Value)} (h : (Value.record fields).Proper) :
    parse? (Value.record fields).render = some ⟨some (Value.record fields).node, []⟩ := by
  have hdashed : (Value.record fields).tokens true = (Value.record fields).tokens false := by
    rw [Value.tokens, Value.tokens]
  have hstart : ((Value.record fields).tokens false ++ [Token.streamEnd]).head? =
      some .blockMappingStart := by
    rw [Value.tokens]
    rfl
  have hfuel : 4 * ((Value.record fields).tokens true).length ≤
      4 * ((Value.record fields).tokens false ++ [Token.streamEnd]).length + 8 := by
    rw [hdashed, List.length_append]
    omega
  have hread := Read.readsNode_of_proper h true _ [.streamEnd] hfuel fun hd => by cases hd
  rw [hdashed] at hread
  unfold parse?
  rw [Value.tokens?_render h, Option.bind_eq_bind, Option.bind_some]
  exact ofTokens?_eq hstart hread

end Document

end Scaffolder.Yaml
