import Mathlib.Data.List.TakeWhile
import Scaffolder.Proofs.Yaml.Block
import Scaffolder.Yaml.Scan

/-!
# States of the scanner

Before it reads a token the scanner passes over blanks and gives up keys that are too far back, and
nothing else of its state counts then (`Scan.settle?`). What it does at a piece of a written text is
therefore stated for the states that settle to a given one (`Scan.stand`).

- `next_eq` reduces a step to the reading of one token, with the lists and mappings closed that the
  token is not part of.
- `token?_colon` and its siblings tell which token that is.
- `Leads` joins steps to what is read in the end.
-/

namespace Scaffolder.Yaml

namespace Scan

/-! ## Settled states -/

/-- The state once blanks are passed over and keys are given up that are too far back. -/
def settle? (s : Scan) : Option Scan :=
  { s with
    keyAllowed := (skipBlanks s.inFlow s.keyAllowed false s.rest).1
    rest := (skipBlanks s.inFlow s.keyAllowed false s.rest).2 }.freshKeys?

/-- A state outside brackets, without a possible key. -/
def stand (p : Position) (cs : List Char) (allowed : Bool) (tokens : List Token)
    (indents : List Nat) : Scan :=
  { rest := p.spots cs, tokens, count := tokens.length, keyAllowed := allowed, indents }

/-- A step is made from what the state settles to. -/
theorem next_of_settle? {s t : Scan} (h : s.settle? = some t) :
    s.next = (t.closeBlocks fun indent => t.here.column < indent).token? := by
  unfold settle? at h
  unfold next
  simp only [h]
  rfl

/-- Blanks at the start of a line. -/
theorem skipBlanks_spaces (allowed : Bool) (p : Position) (m : Nat) {word : List Char}
    (hword : StartsWord word) :
    skipBlanks false allowed false (p.spots (Value.spaces m ++ word)) =
      (allowed, (p.behind (Value.spaces m)).spots word) := by
  induction m generalizing p with
  | zero =>
    show skipBlanks false allowed false (p.spots word) = (allowed, p.spots word)
    cases word with
    | nil => rfl
    | cons c cs =>
      obtain ⟨hprint, hspace, hbreak, hcomment⟩ := hword c rfl
      have hend : c ≠ endChar := ne_end_of_isPrintable hprint
      have hmark : c ≠ byteOrderMark := ne_of_isPrintable hprint (by decide)
      have htab : c ≠ '\t' := ne_tab_of_isPrintable hprint
      have hblank : c ≠ ' ' := by
        rintro rfl
        cases hspace
      rw [p.spots_cons hprint, skipBlanks]
      simp [hbreak, hend, hcomment, hmark, htab, hblank]
  | succ m ih =>
    rw [Value.spaces_succ, List.cons_append, p.spots_space, skipBlanks]
    simp only [Position.spot_char, show isBreak ' ' = false from rfl, Bool.false_eq_true,
      ↓reduceIte, show (' ' = endChar) = False from by decide, show (' ' = '#') = False from by decide,
      decide_false, Bool.or_self, decide_true, Bool.true_or]
    exact ih (p.past ' ')

/-- Behind a line feed a key may start. -/
theorem skipBlanks_feed (allowed : Bool) (p : Position) (more : List Char) :
    skipBlanks false allowed false (p.spots ('\n' :: more)) =
      skipBlanks false true false ((p.past '\n').spots more) := by
  rw [p.spots_feed, skipBlanks]
  simp [show isBreak '\n' = true from rfl]

/-- A state stands at the first character of what is left. -/
theorem here_stand (p : Position) {cs : List Char} (h : StartsWord cs) (allowed : Bool)
    (tokens : List Token) (indents : List Nat) :
    (stand p cs allowed tokens indents).here = p.spot (cs.head?.getD endChar) := by
  obtain ⟨rest, hrest⟩ := p.exists_spots_eq fun c hc => (h c hc).1
  unfold here stand
  rw [hrest]
  rfl

/-- A state settles where its blanks lead to a word, once its possible key is on a line before. -/
theorem settle?_eq {s : Scan} {q : Position} {word : List Char} {allowed : Bool}
    (hskip : skipBlanks false s.keyAllowed false s.rest = (allowed, q.spots word))
    (hword : StartsWord word) (houter : s.outer = []) (hcount : s.count = s.tokens.length)
    (hkey : ∀ k ∈ s.possible, k.required = false ∧ k.line < q.line) :
    s.settle? = some (stand q word allowed s.tokens s.indents) := by
  have hflow : s.inFlow = false := by
    unfold inFlow
    rw [houter]
    rfl
  have hhere := here_stand q hword allowed s.tokens s.indents
  have hfresh : freshKey? (q.spot (word.head?.getD endChar)) s.possible = some none := by
    cases hpossible : s.possible with
    | none => rfl
    | some k =>
      obtain ⟨hrequired, hline⟩ := hkey k hpossible
      have hlt : k.line < (q.spot (word.head?.getD endChar)).line := hline
      unfold freshKey?
      simp [hlt, hrequired]
  unfold settle?
  rw [hflow, hskip]
  obtain ⟨rest, tokens, count, keyAllowed, possible, outer, indents⟩ := s
  obtain rfl : outer = [] := houter
  obtain rfl : count = tokens.length := hcount
  unfold freshKeys?
  show (freshKey? (stand q word allowed tokens indents).here possible >>= fun possible => _) = _
  rw [hhere, hfresh]
  rfl

/-! ## Lists and mappings of lines -/

/-- The tokens that close some lists and mappings. -/
def ends (indents : List Nat) : List Token := indents.map fun _ => .blockEnd

/-- The open lists and mappings once there is one at a column. -/
def opened (column : Nat) (indents : List Nat) : List Nat :=
  if indents.head? = some column then indents else column :: indents

/-- The token that opens it, unless it is open. -/
def opening (column : Nat) (indents : List Nat) (t : Token) : List Token :=
  if indents.head? = some column then [] else [t]

section

variable {column k : Nat} {indents : List Nat}

/-- An opened list or mapping is the innermost one. -/
theorem head?_opened (column : Nat) (indents : List Nat) :
    (opened column indents).head? = some column := by
  unfold opened
  split
  · next h => exact h
  · rfl

/-- A list or a mapping that is open is not opened again. -/
theorem opened_of_head? (h : indents.head? = some column) : opened column indents = indents :=
  if_pos h

/-- No token opens a list or a mapping that is open. -/
theorem opening_of_head? (h : indents.head? = some column) (t : Token) :
    opening column indents t = [] := if_pos h

/-- Farther right than the innermost one, none is open. -/
theorem head?_ne_of_lt (h : indents.head? = some column) (hk : column < k) :
    indents.head? ≠ some k := by
  rw [h]
  intro heq
  exact Nat.ne_of_lt hk (Option.some.inj heq)

/-- A list or a mapping is opened farther right than the innermost one. -/
theorem opened_of_lt (h : indents.head? = some column) (hk : column < k) :
    opened k indents = k :: indents := if_neg (head?_ne_of_lt h hk)

/-- A token opens it. -/
theorem opening_of_lt (h : indents.head? = some column) (hk : column < k) (t : Token) :
    opening k indents t = [t] := if_neg (head?_ne_of_lt h hk)

/-- The innermost list or mapping is not farther right than a column behind its own. -/
theorem le_of_head? (h : indents.head? = some column) (hk : column ≤ k) :
    ∀ i ∈ indents.head?, i ≤ k := by
  intro i hi
  obtain rfl : column = i := Option.some.inj (h.symm.trans hi)
  exact hk

/-- The outermost of some lists and mappings is the last to be closed. -/
theorem ends_concat (indents : List Nat) (column : Nat) :
    ends (indents ++ [column]) = .blockEnd :: ends indents := by
  induction indents with
  | nil => rfl
  | cons i indents ih => exact congrArg (Token.blockEnd :: ·) ih

end

/-- Where no bracket is open, one is not between brackets. -/
theorem inFlow_eq_false {s : Scan} (h : s.outer = []) : s.inFlow = false := by
  unfold inFlow
  rw [h]
  rfl

/-- **What is closed:** all that is farther right, with one token each. -/
theorem closeBlocks_eq {s : Scan} {column : Nat} {deeper indents : List Nat}
    (houter : s.outer = []) (hs : s.indents = deeper ++ indents)
    (hdeeper : ∀ i ∈ deeper, column < i) (hindents : ∀ i ∈ indents.head?, i ≤ column) :
    s.closeBlocks (fun i => column < i) =
      { s with
        tokens := ends deeper ++ s.tokens, count := s.count + deeper.length, indents } := by
  have hdeeper' : ∀ i ∈ deeper, decide (column < i) = true := fun i hi =>
    decide_eq_true (hdeeper i hi)
  have hkept : indents.takeWhile (fun i => column < i) = [] ∧
      indents.dropWhile (fun i => column < i) = indents := by
    cases indents with
    | nil => exact ⟨rfl, rfl⟩
    | cons i indents =>
      have hi : ¬column < i := Nat.not_lt.2 (hindents i rfl)
      simp [hi]
  unfold closeBlocks
  rw [inFlow_eq_false houter, hs, List.takeWhile_append_of_pos hdeeper',
    List.dropWhile_append_of_pos hdeeper', hkept.1, hkept.2, List.append_nil]
  rfl

/-- **What is opened:** a list or a mapping, unless it is open, with a token before those since its
place. -/
theorem openBlock_eq {s : Scan} {column place : Nat} (t : Token) (houter : s.outer = [])
    (hindents : ∀ i ∈ s.indents.head?, i ≤ column) :
    s.openBlock column place t =
      { s with
        tokens := s.tokens.take (s.count - place) ++
          (opening column s.indents t ++ s.tokens.drop (s.count - place))
        count := s.count + (opening column s.indents t).length
        indents := opened column s.indents } := by
  unfold openBlock opening opened margin insertAt
  rw [inFlow_eq_false houter]
  obtain ⟨rest, tokens, count, keyAllowed, possible, outer, indents⟩ := s
  cases indents with
  | nil => simp
  | cons i indents =>
    have hi : i ≤ column := hindents i rfl
    by_cases h : i = column
    · subst h
      simp
    · have hlt : ¬column < i + 1 := by omega
      simp [h, hlt]

/-! ## Which token starts -/

/-- Whether a character stands here, outside brackets and not as part of a mark. -/
structure Stands (s : Scan) (c : Char) : Prop where
  /-- It is the next to be read. -/
  here : s.here.char = c
  /-- No document starts or ends here. -/
  unmarked : atMark s.rest = false
  /-- No bracket is open. -/
  outside : s.inFlow = false

section

variable {s : Scan} {c : Char}

/-- Where a token stands, no mark of a document does. -/
theorem Stands.startsWithMark (h : s.Stands c) :
    startsWithMark '-' s.rest = false ∧ startsWithMark '.' s.rest = false :=
  Bool.or_eq_false_iff.1 h.unmarked

/-- A colon before a gap ends a key. -/
theorem token?_colon (h : s.Stands ':') (hgap : isGap (ahead 1 s.rest) = true) :
    s.token? = s.value? := by
  obtain ⟨hdash, hdots⟩ := h.startsWithMark
  unfold token?
  simp [h.here, h.outside, hdash, hdots, hgap, endChar]

/-- A dash before a gap starts an item. -/
theorem token?_dash (h : s.Stands '-') (hgap : isGap (ahead 1 s.rest) = true) :
    s.token? = s.blockEntry? := by
  obtain ⟨hdash, hdots⟩ := h.startsWithMark
  unfold token?
  simp [h.here, hdash, hdots, hgap, endChar]

/-- A quotation mark starts a quoted scalar. -/
theorem token?_quote (quotes : Quotes) (h : s.Stands quotes.char) :
    s.token? = s.quotedToken? quotes := by
  obtain ⟨hdash, hdots⟩ := h.startsWithMark
  unfold token?
  cases quotes with
  | single => simp [h.here, Quotes.char, hdash, hdots, endChar]
  | double => simp [h.here, Quotes.char, hdash, hdots, endChar]

/-- A bar starts a block of lines. -/
theorem token?_lines (h : s.Stands '|') : s.token? = s.blockToken? false := by
  obtain ⟨hdash, hdots⟩ := h.startsWithMark
  unfold token?
  simp [h.here, h.outside, hdash, hdots, endChar]

/-- At the end of the text everything is closed. -/
theorem token?_end (h : s.here.char = endChar) :
    s.token? = s.endBlocks?.map (push .streamEnd) := by
  unfold token?
  simp only [h, ↓reduceIte]
  cases s.endBlocks? with
  | none => rfl
  | some t => rfl

/-- A character that starts nothing else starts a plain scalar. -/
theorem token?_plain (h : s.Stands c) (hprint : isPrintable c = true)
    (hbreak : isBreak c = false) (hspace : c ≠ ' ')
    (hchar : "#,[]\x7b\x7d&*!|>'\"%@`".toList.contains c = false)
    (hnext : "?:-".toList.contains c = true → isGap (ahead 1 s.rest) = false) :
    s.token? = s.plainToken? := by
  generalize hahead : ahead 1 s.rest = next at hnext
  obtain ⟨hdash, hdots⟩ := h.startsWithMark
  have hend : c ≠ endChar := ne_end_of_isPrintable hprint
  have hne : ∀ d ∈ "#,[]\x7b\x7d&*!|>'\"%@`".toList, c ≠ d := by
    rintro d hd rfl
    rw [List.contains_iff_mem.2 hd] at hchar
    cases hchar
  have hsign : ∀ d ∈ "?:-".toList, ¬(c = d ∧ isGap next = true) := by
    rintro d hd ⟨rfl, hgap⟩
    rw [hnext (List.contains_iff_mem.2 hd)] at hgap
    cases hgap
  have hplain : startsPlain false c next = true := by
    unfold startsPlain
    by_cases hc : c ∈ "?:-".toList
    · have hnot : isGap next = false := hnext (List.contains_iff_mem.2 hc)
      have hnotSpace : isSpace next = false := by
        unfold isGap at hnot
        rw [Bool.or_eq_false_iff, Bool.or_eq_false_iff] at hnot
        exact hnot.1.1
      obtain rfl | rfl | rfl : c = '?' ∨ c = ':' ∨ c = '-' := by simpa using hc
      · simp [hnot]
      · simp [hnot]
      · simp [hnotSpace]
    · have hall : "-?:,[]\x7b\x7d#&*!|>'\"%@`".toList.all (fun d => "?:-".toList.contains d ||
          "#,[]\x7b\x7d&*!|>'\"%@`".toList.contains d) = true := by decide
      have hnot : "-?:,[]\x7b\x7d#&*!|>'\"%@`".toList.contains c = false := by
        rw [← Bool.not_eq_true, List.contains_iff_mem]
        intro hmem
        have hone := List.all_eq_true.1 hall c hmem
        rw [hchar, Bool.or_false] at hone
        exact hc (List.contains_iff_mem.1 hone)
      rw [isGap_eq_false hprint hbreak hspace, hnot]
      rfl
  unfold token?
  simp only [h.here, hahead, h.outside, hdash, hdots, hend, hplain, hne '%' (by decide),
    hne '[' (by decide), hne ']' (by decide), hne '\x7b' (by decide), hne '\x7d' (by decide),
    hne ',' (by decide), hne '*' (by decide), hne '&' (by decide), hne '!' (by decide),
    hne '|' (by decide), hne '>' (by decide), hne '\'' (by decide), hne '"' (by decide),
    hsign '-' (by decide), hsign '?' (by decide), hsign ':' (by decide), Bool.and_eq_true,
    decide_eq_true_eq, decide_false, Bool.false_and, Bool.false_eq_true, Bool.false_or, ↓reduceIte]

end

/-! ## Where a state stands -/

variable {s : Scan} {p q : Position} {word : List Char} {allowed : Bool} {tokens : List Token}
  {deeper indents : List Nat}

/-- A token stands where a printable character does that starts no mark. -/
theorem Stands.of_rest {c : Char} {cs : List Char} (hrest : s.rest = q.spots (c :: cs))
    (houter : s.outer = []) (hc : isPrintable c = true)
    (hmark : atMark (q.spots (c :: cs)) = false) : s.Stands c := by
  refine ⟨?_, ?_, inFlow_eq_false houter⟩
  · unfold Scan.here
    rw [hrest, q.spots_cons hc]
    rfl
  · rw [hrest]
    exact hmark

/-- No mark starts behind the first column. -/
theorem Stands.of_column {c : Char} {cs : List Char} (hrest : s.rest = q.spots (c :: cs))
    (houter : s.outer = []) (hc : isPrintable c = true) (hcolumn : 0 < q.column) : s.Stands c := by
  refine .of_rest hrest houter hc ?_
  rw [q.spots_cons hc]
  exact atMark_of_column (Nat.pos_iff_ne_zero.1 hcolumn)

/-- The character after the first one, or the end. -/
theorem ahead_one {c : Char} {cs : List Char} (hc : isPrintable c = true)
    (hcs : ∀ d ∈ cs.head?, isPrintable d = true) :
    ahead 1 (q.spots (c :: cs)) = cs.head?.getD endChar := by
  rw [q.spots_cons hc]
  exact ahead_spots _ hcs

/-- What the next token is read from. -/
theorem next_eq (h : s.settle? = some (stand q word allowed tokens (deeper ++ indents)))
    (hword : StartsWord word) (hdeeper : ∀ i ∈ deeper, q.column < i)
    (hindents : ∀ i ∈ indents.head?, i ≤ q.column) :
    s.next = (stand q word allowed (ends deeper ++ tokens) indents).token? := by
  have hcount : tokens.length + deeper.length = (ends deeper ++ tokens).length := by
    unfold ends
    rw [List.length_append, List.length_map, Nat.add_comm]
  rw [next_of_settle? h, here_stand q hword, Position.spot_column,
    closeBlocks_eq rfl rfl hdeeper hindents]
  unfold stand
  simp only [hcount]

/-- Spaces at the start make no difference. -/
theorem settle?_stand (p : Position) (m : Nat) (allowed : Bool) (tokens : List Token)
    (indents : List Nat) (hword : StartsWord word) :
    (stand p (Value.spaces m ++ word) allowed tokens indents).settle? =
      some (stand (p.behind (Value.spaces m)) word allowed tokens indents) :=
  settle?_eq (skipBlanks_spaces allowed p m hword) hword rfl rfl fun _ hk => by cases hk

/-- Behind a break the next line is read from its indentation on. -/
theorem settle?_line (p : Position) (m : Nat) (allowed : Bool) (tokens : List Token)
    (indents : List Nat) (hword : StartsWord word) :
    (stand p ('\n' :: (Value.spaces m ++ word)) allowed tokens indents).settle? =
      some (stand ((p.past '\n').behind (Value.spaces m)) word true tokens indents) := by
  refine settle?_eq ?_ hword rfl rfl fun _ hk => by cases hk
  show skipBlanks false allowed false (p.spots ('\n' :: (Value.spaces m ++ word))) = _
  rw [skipBlanks_feed]
  exact skipBlanks_spaces true _ m hword

/-- A key is kept as long as its line goes on and it is not too long. -/
theorem settle?_of_near {c : Char} {cs : List Char} (hrest : s.rest = q.spots (c :: cs))
    (hword : StartsWord (c :: cs)) (houter : s.outer = [])
    (hkey : ∀ k ∈ s.possible, k.line = q.line ∧ q.index ≤ k.index + 1024) :
    s.settle? = some s := by
  have hskip := skipBlanks_spaces s.keyAllowed q 0 hword
  have hhere := here_stand q hword s.keyAllowed s.tokens s.indents
  have hfresh : freshKey? (q.spot c) s.possible = some s.possible := by
    cases hpossible : s.possible with
    | none => rfl
    | some k =>
      obtain ⟨hline, hindex⟩ := hkey k hpossible
      have hnear : ¬(k.line < (q.spot c).line ∨ k.index + 1024 < (q.spot c).index) := by
        show ¬(k.line < q.line ∨ k.index + 1024 < q.index)
        omega
      unfold freshKey?
      simp only [hnear, ↓reduceIte]
  unfold settle?
  rw [inFlow_eq_false houter, hrest]
  obtain ⟨rest, tokens, count, keyAllowed, possible, outer, indents⟩ := s
  obtain rfl : outer = [] := houter
  obtain rfl : rest = q.spots (c :: cs) := hrest
  have hskip' : skipBlanks false keyAllowed false (q.spots (c :: cs)) =
      (keyAllowed, q.spots (c :: cs)) := hskip
  rw [hskip']
  unfold freshKeys?
  show (freshKey? (stand q (c :: cs) keyAllowed tokens indents).here possible >>=
    fun possible => _) = _
  rw [hhere]
  show (freshKey? (q.spot c) possible >>= fun possible => _) = _
  rw [hfresh]
  rfl

/-- The key that may start where a state stands. -/
def keyAt (q : Position) (tokens : List Token) (indents : List Nat) : PossibleKey :=
  ⟨tokens.length, decide (indents.head? = some q.column), q.line, q.column, q.index⟩

/-- Where a key may start, it is remembered. -/
theorem markKey?_stand (hword : StartsWord word) :
    (stand q word allowed tokens indents).markKey? =
      some { stand q word allowed tokens indents with
        possible := if allowed then some (keyAt q tokens indents) else none } := by
  unfold markKey?
  cases allowed with
  | false => rfl
  | true =>
    rw [show (stand q word true tokens indents).dropKey? =
      some (stand q word true tokens indents) from rfl, Option.bind_eq_bind, Option.bind_some,
      here_stand q hword]
    rfl

/-- A plain scalar is a token when it is read. -/
theorem plainToken?_stand {scalar : PlainScalar} (hword : StartsWord word)
    (hread : plain? false (stand q word allowed tokens indents).margin (q.spots word) = some scalar) :
    (stand q word allowed tokens indents).plainToken? =
      some { stand q word allowed tokens indents with
        tokens := .scalar .plain scalar.text :: tokens
        count := tokens.length + 1
        rest := scalar.rest
        keyAllowed := scalar.endsLine
        possible := if allowed then some (keyAt q tokens indents) else none } := by
  have hread' : plain? (stand q word allowed tokens indents).inFlow
      (stand q word allowed tokens indents).margin (stand q word allowed tokens indents).rest =
        some scalar := hread
  unfold plainToken?
  rw [markKey?_stand hword, Option.bind_eq_bind, Option.bind_some]
  show (plain? (stand q word allowed tokens indents).inFlow
    (stand q word allowed tokens indents).margin (stand q word allowed tokens indents).rest >>= _) = _
  rw [hread']
  rfl

/-! ## Reading on -/

/-- Whether what is read from the second state is read from the first too, with some tokens more. -/
def Leads (n : Nat) (s t : Scan) : Prop :=
  ∀ m ts, toEnd m t = some ts → toEnd (m + n) s = some ts

/-- One more step does not change what is read to the end. -/
theorem toEnd_succ {m : Nat} {s : Scan} {ts : List Token} (h : toEnd m s = some ts) :
    toEnd (m + 1) s = some ts := by
  induction m generalizing s with
  | zero => cases h
  | succ m ih =>
    unfold toEnd at h ⊢
    cases hnext : s.next with
    | none =>
      rw [hnext] at h
      cases h
    | some t =>
      rw [hnext, Option.bind_eq_bind, Option.bind_some] at h
      rw [Option.bind_eq_bind, Option.bind_some]
      split
      · rwa [if_pos ‹_›] at h
      · rw [if_neg ‹_›] at h
        exact ih h

/-- A state leads to itself. -/
theorem Leads.refl (n : Nat) (s : Scan) : Leads n s s := by
  intro m ts h
  induction n with
  | zero => exact h
  | succ n ih => exact toEnd_succ ih

/-- What a state leads to may lead on. -/
theorem Leads.trans {n k : Nat} {s t u : Scan} (h : Leads n s t) (h' : Leads k t u) :
    Leads (n + k) s u := by
  intro m ts hts
  have hread := h _ _ (h' m ts hts)
  rwa [Nat.add_assoc, Nat.add_comm k n] at hread

/-- What takes some steps at most takes more at most. -/
theorem Leads.mono {n k : Nat} {s t : Scan} (h : Leads n s t) (hle : n ≤ k) : Leads k s t := by
  have hlonger := h.trans (Leads.refl (k - n) t)
  rwa [Nat.add_sub_cancel' hle] at hlonger

/-- A step leads on, unless it reads the end. -/
theorem leads_of_next {s t : Scan} {token : Token} (h : s.next = some t)
    (htokens : t.tokens = token :: tokens) (htoken : token ≠ .streamEnd) : Leads 1 s t := by
  intro m ts hts
  have hgoes : t.tokens.head? ≠ some .streamEnd := by
    rw [htokens]
    exact fun heq => htoken (Option.some.inj heq)
  show toEnd (m + 1) s = some ts
  unfold toEnd
  rw [h, Option.bind_eq_bind, Option.bind_some, if_neg hgoes]
  exact hts

/-- A step that reads the end is the last one. -/
theorem toEnd_of_next {s t : Scan} (h : s.next = some t) (htokens : t.tokens = .streamEnd :: tokens) :
    toEnd 1 s = some t.tokens.reverse := by
  have hends : t.tokens.head? = some .streamEnd := by
    rw [htokens]
    rfl
  unfold toEnd
  rw [h, Option.bind_eq_bind, Option.bind_some, if_pos hends]
  rfl

end Scan

end Scaffolder.Yaml
