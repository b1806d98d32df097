import Mathlib.Tactic.Set
import Scaffolder.Proofs.Yaml.Lines
import Scaffolder.Proofs.Yaml.Scan

/-!
# Steps of the scanner

What the scanner does at the pieces of a written text: at the name of a field and the colon behind
it (`next_name`, `next_colon`), at the dash of an item (`next_dash`), at a text (`next_text`) and at
the end (`next_end`). Each step tells the tokens and the open lists and mappings exactly.
-/

namespace Scaffolder.Yaml

/-- The style in which a text is written. -/
def styleOf (cs : List Char) : ScalarStyle :=
  match Writing.of cs with
  | .plain => .plain
  | .single | .double => .quoted
  | .lines => .literal

namespace Scan

variable {s : Scan} {p q : Position} {word : List Char} {allowed : Bool} {tokens : List Token}
  {deeper indents : List Nat}

/-! ## Fields -/

/-- The name of a field is read, and its place is remembered. -/
theorem next_name {name more : List Char} (hname : IsFieldName name)
    (hmore : more.head? = some ' ' ∨ more.head? = some '\n')
    (h : s.settle? = some (stand q (name ++ ':' :: more) true tokens (deeper ++ indents)))
    (hdeeper : ∀ i ∈ deeper, q.column < i) (hindents : ∀ i ∈ indents.head?, i ≤ q.column) :
    s.next = some { stand (q.behind name) (':' :: more) false
      (.scalar .plain name :: (ends deeper ++ tokens)) indents with
        possible := some (keyAt q (ends deeper ++ tokens) indents) } := by
  have hword := startsWord_name hname (':' :: more)
  obtain ⟨hne, hlower, _⟩ := hname
  obtain ⟨c, cs, rfl⟩ := List.exists_cons_of_ne_nil hne
  have hc := hlower c List.mem_cons_self
  have hmark : atMark (q.spots (c :: (cs ++ ':' :: more))) = false := by
    rw [q.spots_cons (isPrintable_of_isLower hc)]
    exact atMark_of_isLower hc _
  have hstands := Stands.of_rest (s := stand q (c :: (cs ++ ':' :: more)) true
    (ends deeper ++ tokens) indents) rfl rfl (isPrintable_of_isLower hc) hmark
  have hread := plainFrom_name (stand q (c :: cs ++ ':' :: more) true (ends deeper ++ tokens)
    indents).margin [] q hlower hmore
  have hsign : "?:-".toList.contains c = false := notMem_of_isLower hc (by decide)
  rw [next_eq h hword hdeeper hindents, List.cons_append,
    token?_plain hstands (isPrintable_of_isLower hc) (isBreak_of_isLower hc)
      (ne_of_isLower hc (by decide)) (notMem_of_isLower hc (by decide))
      (fun hcontains => by rw [hsign] at hcontains; cases hcontains)]
  exact plainToken?_stand hword hread

/-- The tokens of a key are put before its name. -/
theorem value?_of_key {k : PossibleKey} {t : Token} (hkey : s.possible = some k)
    (houter : s.outer = []) (htokens : s.tokens = t :: tokens) (hcount : s.count = k.place + 1)
    (hindents : ∀ i ∈ s.indents.head?, i ≤ k.column) :
    s.value? = some { s with
      rest := s.rest.drop 1
      tokens := .value :: t :: .key :: (opening k.column s.indents .blockMappingStart ++ tokens)
      count := k.place + 3 + (opening k.column s.indents .blockMappingStart).length
      indents := opened k.column s.indents
      possible := none
      keyAllowed := false } := by
  have hinsert : s.insertAt k.place .key =
      { s with tokens := t :: .key :: tokens, count := k.place + 2 } := by
    unfold insertAt
    rw [hcount, Nat.add_sub_cancel_left, htokens]
    rfl
  unfold value?
  rw [hkey]
  simp only [hinsert]
  rw [openBlock_eq (s := { s with tokens := t :: .key :: tokens, count := k.place + 2 })
    .blockMappingStart houter hindents]
  have hafter : k.place + 2 - k.place = 2 := by omega
  simp only [hafter, List.take_succ_cons, List.take_zero, List.drop_succ_cons, List.drop_zero,
    List.cons_append, List.nil_append, take, push, Option.some.injEq, Scan.mk.injEq, true_and,
    and_true]
  omega

/-- Behind the name the colon makes it a key. -/
theorem next_colon (tokens : List Token) {name more : List Char} (hname : IsFieldName name)
    (hmore : more.head? = some ' ' ∨ more.head? = some '\n')
    (hindents : ∀ i ∈ indents.head?, i ≤ q.column) :
    next { stand (q.behind name) (':' :: more) false (.scalar .plain name :: tokens) indents with
        possible := some (keyAt q tokens indents) } =
      some (stand ((q.behind name).past ':') more false
        (.value :: .scalar .plain name :: .key ::
          (opening q.column indents .blockMappingStart ++ tokens))
        (opened q.column indents)) := by
  obtain ⟨hne, hlower, hlength⟩ := hname
  obtain ⟨hline, hcolumn, hindex⟩ := q.behind_name hlower
  have hword : StartsWord (':' :: more) := startsWord_cons _ (by decide)
  have hcolon : isPrintable ':' = true := by decide
  have hgap : isGap (ahead 1 ((q.behind name).spots (':' :: more))) = true := by
    rw [Position.spots_cons _ hcolon]
    exact isGap_ahead ((q.behind name).past ':') hmore
  have hpos : 0 < (q.behind name).column := by
    have := List.length_pos_iff.2 hne
    omega
  set t : Scan := { stand (q.behind name) (':' :: more) false (.scalar .plain name :: tokens) indents
    with possible := some (keyAt q tokens indents) } with ht
  have hsettle : t.settle? = some t := by
    refine settle?_of_near rfl hword rfl ?_
    intro k hk
    obtain rfl : keyAt q tokens indents = k := Option.some.inj hk
    refine ⟨hline.symm, ?_⟩
    show (q.behind name).index ≤ q.index + 1024
    omega
  have hhere : t.here.column = q.column + name.length := by
    rw [← hcolumn]
    exact congrArg Spot.column (here_stand (q.behind name) hword false
      (.scalar .plain name :: tokens) indents)
  have hclose : t.closeBlocks (fun i => t.here.column < i) = t := by
    rw [closeBlocks_eq rfl (show t.indents = [] ++ indents from rfl) (List.forall_mem_nil _)]
    · rfl
    · intro i hi
      have := hindents i hi
      omega
  have hstands : t.Stands ':' := .of_column rfl rfl hcolon hpos
  rw [next_of_settle? hsettle, hclose, token?_colon hstands hgap,
    value?_of_key (k := keyAt q tokens indents) rfl rfl rfl rfl hindents]
  have hrest : ((q.behind name).spots (':' :: more)).drop 1 =
      ((q.behind name).past ':').spots more := by
    rw [Position.spots_cons _ hcolon]
    rfl
  have hcount : tokens.length + 3 + (opening q.column indents .blockMappingStart).length =
      (Token.value :: .scalar .plain name :: .key ::
        (opening q.column indents .blockMappingStart ++ tokens)).length := by
    simp only [List.length_cons, List.length_append]
    omega
  unfold stand
  rw [← hrest, ← hcount]
  rfl

/-! ## Items -/

/-- The dash before an item is read. -/
theorem next_dash {more : List Char}
    (h : s.settle? = some (stand q ('-' :: ' ' :: more) true tokens (deeper ++ indents)))
    (hdeeper : ∀ i ∈ deeper, q.column < i) (hindents : ∀ i ∈ indents.head?, i ≤ q.column) :
    s.next = some (stand (q.past '-') (' ' :: more) true
      (.blockEntry :: (opening q.column indents .blockSequenceStart ++ (ends deeper ++ tokens)))
      (opened q.column indents)) := by
  have hword : StartsWord ('-' :: ' ' :: more) := startsWord_cons _ (by decide)
  have hgap : isGap (ahead 1 (q.spots ('-' :: ' ' :: more))) = true := by
    rw [ahead_one (by decide) (isPrintable_head? more (by decide))]
    rfl
  have hspots : q.spots ('-' :: ' ' :: more) = q.spot '-' :: (q.past '-').spots (' ' :: more) :=
    q.spots_cons (by decide) _
  have hmark : atMark (q.spots ('-' :: ' ' :: more)) = false := by
    rw [hspots, Position.spots_space]
    unfold atMark startsWithMark
    simp [ahead]
  have hstands := Stands.of_rest (s := stand q ('-' :: ' ' :: more) true (ends deeper ++ tokens)
    indents) rfl rfl (by decide) hmark
  have hcount : (ends deeper ++ tokens).length +
      (opening q.column indents .blockSequenceStart).length + 1 =
        (Token.blockEntry :: (opening q.column indents .blockSequenceStart ++
          (ends deeper ++ tokens))).length := by
    simp only [List.length_cons, List.length_append]
    omega
  rw [next_eq h hword hdeeper hindents, token?_dash hstands hgap]
  unfold blockEntry?
  rw [here_stand q hword, openBlock_eq .blockSequenceStart rfl hindents]
  simp only [Nat.sub_self, List.take_zero, List.drop_zero, List.nil_append]
  have hrest : (q.spots ('-' :: ' ' :: more)).drop 1 = (q.past '-').spots (' ' :: more) := by
    rw [hspots]
    rfl
  unfold stand
  rw [← hrest, ← hcount]
  rfl

/-! ## Texts -/

section

variable {column m : Nat} {cs : List Char}

/-- What is read inside a list or a mapping stands farther right than it. -/
theorem margin_stand (q : Position) (word : List Char) (allowed : Bool) (tokens : List Token)
    (h : indents.head? = some column) :
    (stand q word allowed tokens indents).margin = column + 1 := by
  obtain ⟨indents', rfl⟩ := List.head?_eq_some_iff.1 h
  rfl

/-- A token that belongs to what is open closes nothing. -/
theorem next_eq_inside (h : s.settle? = some (stand q word allowed tokens indents))
    (hword : StartsWord word) (hindents : indents.head? = some column) (hcolumn : column ≤ q.column) :
    s.next = (stand q word allowed tokens indents).token? := by
  have hsettle : s.settle? = some (stand q word allowed tokens ([] ++ indents)) := h
  have hnext := next_eq hsettle hword (List.forall_mem_nil _) (le_of_head? hindents hcolumn)
  rwa [show ends [] ++ tokens = tokens from rfl] at hnext

/-- A key that may start at a text is given up behind the line. -/
theorem keyAt_of_line {k : PossibleKey} {p : Position} (hindents : indents.head? = some column)
    (hcolumn : column < q.column) (hline : q.line < p.line)
    (hk : k ∈ if allowed then some (keyAt q tokens indents) else none) :
    k.required = false ∧ k.line < p.line := by
  cases allowed with
  | false => cases hk
  | true =>
    obtain rfl : keyAt q tokens indents = k := Option.some.inj hk
    exact ⟨decide_eq_false (head?_ne_of_lt hindents hcolumn), hline⟩

/-- A text without quotes is read, up to the word on the next line. -/
theorem next_plain (h : s.settle? = some (stand q (cs ++ '\n' :: (Value.spaces m ++ word)) allowed
      tokens indents)) (hcs : ReadsPlain cs) (hword : StartsWord word)
    (hindents : indents.head? = some column) (hcolumn : column < q.column) (hm : m ≤ column) :
    ∃ t, s.next = some t ∧ t.tokens = .scalar .plain cs :: tokens ∧
      t.settle? = some (stand (q.behind (cs ++ '\n' :: Value.spaces m)) word true
        (.scalar .plain cs :: tokens) indents) := by
  have hread := hcs.plain?_spots (column + 1) q hword hcolumn (Nat.lt_succ_of_le hm)
  rw [← margin_stand q (cs ++ '\n' :: (Value.spaces m ++ word)) allowed tokens hindents] at hread
  have hline : q.line < (q.behind (cs ++ '\n' :: Value.spaces m)).line := by
    rw [Position.behind_append, Position.behind_cons]
    have hbefore := q.line_le_behind cs
    have hafter := ((q.behind cs).past '\n').line_le_behind (Value.spaces m)
    rw [Position.past_of_break _ (by decide)] at hafter
    exact Nat.lt_of_le_of_lt hbefore hafter
  have htoken : s.next =
      (stand q (cs ++ '\n' :: (Value.spaces m ++ word)) allowed tokens indents).plainToken? := by
    rw [next_eq_inside h (hcs.startsWord _) hindents (Nat.le_of_lt hcolumn)]
    have hstart := hcs.startsMarked_append ('\n' :: (Value.spaces m ++ word))
    have hstays := hcs.stays
    obtain ⟨c, rest, rfl, hprint, hbreak, hne⟩ := hcs.exists_cons
    have hprint' : ∀ d ∈ (rest ++ '\n' :: (Value.spaces m ++ word)).head?, isPrintable d = true := by
      cases rest with
      | nil => exact isPrintable_head? _ (by decide)
      | cons d ds => exact isPrintable_head? _ hstays.2.2.2.1.1
    obtain ⟨hchar, hsign⟩ := Bool.or_eq_false_iff.1 hstart
    have hstands := Stands.of_column (s := stand q (c :: rest ++ '\n' :: (Value.spaces m ++ word))
      allowed tokens indents) rfl rfl hprint (Nat.zero_lt_of_lt hcolumn)
    refine token?_plain hstands hprint hbreak hne hchar ?_
    intro hc
    show isGap (ahead 1 (q.spots (c :: (rest ++ '\n' :: (Value.spaces m ++ word))))) = false
    rw [ahead_one hprint hprint']
    exact isGap_of_isWrittenGap (Bool.and_eq_false_imp.1 hsign hc)
  rw [htoken, plainToken?_stand (hcs.startsWord _) hread]
  refine ⟨_, rfl, rfl, ?_⟩
  exact settle?_eq (skipBlanks_spaces true _ 0 hword) hword rfl rfl fun k hk =>
    keyAt_of_line hindents hcolumn hline hk

/-- A text between quotes is read, and the line behind it passed over. -/
theorem next_quoted (quotes : Quotes) {tail : List Char}
    (h : s.settle? = some (stand q (quotes.char :: (tail ++ '\n' :: (Value.spaces m ++ word))) allowed
      tokens indents))
    (hread : quoted? quotes ((q.past quotes.char).spots (tail ++ '\n' :: (Value.spaces m ++ word))) =
      some (cs, ((q.past quotes.char).behind tail).spots ('\n' :: (Value.spaces m ++ word))))
    (hword : StartsWord word) (hindents : indents.head? = some column) (hcolumn : column < q.column) :
    ∃ t, s.next = some t ∧ t.tokens = .scalar .quoted cs :: tokens ∧
      t.settle? = some (stand (q.behind (quotes.char :: (tail ++ '\n' :: Value.spaces m))) word true
        (.scalar .quoted cs :: tokens) indents) := by
  set more := tail ++ '\n' :: (Value.spaces m ++ word) with hmore
  set after := ((q.past quotes.char).behind tail).past '\n' with hafter
  have hprint : isPrintable quotes.char = true := by cases quotes <;> decide
  have hfirst : StartsWord (quotes.char :: more) := startsWord_cons _ (by cases quotes <;> decide)
  have hstands := Stands.of_column (s := stand q (quotes.char :: more) allowed tokens indents)
    rfl rfl hprint (Nat.zero_lt_of_lt hcolumn)
  have hplace : q.behind (quotes.char :: (tail ++ '\n' :: Value.spaces m)) =
      after.behind (Value.spaces m) := by
    rw [Position.behind_cons, Position.behind_append, Position.behind_cons]
  have hline : q.line < (after.behind (Value.spaces m)).line := by
    have hstart : (q.past quotes.char).line = q.line := by
      cases quotes <;> rfl
    have hbefore := (q.past quotes.char).line_le_behind tail
    have hbehind := after.line_le_behind (Value.spaces m)
    rw [hafter, Position.past_of_break _ (by decide)] at hbehind
    rw [hstart] at hbefore
    rw [hafter, Position.past_of_break _ (by decide)]
    exact Nat.lt_of_le_of_lt hbefore hbehind
  have htoken : s.next = (stand q (quotes.char :: more) allowed tokens indents).quotedToken? quotes := by
    rw [next_eq_inside h hfirst hindents (Nat.le_of_lt hcolumn)]
    exact token?_quote quotes hstands
  have hrest : (stand q (quotes.char :: more) allowed tokens indents).rest.tail =
      (q.past quotes.char).spots more := by
    show (q.spots (quotes.char :: more)).tail = _
    rw [q.spots_cons hprint, List.tail_cons]
  have hresult : s.next = some { stand q (quotes.char :: more) allowed tokens indents with
      tokens := .scalar .quoted cs :: tokens
      count := tokens.length + 1
      rest := ((q.past quotes.char).behind tail).spots ('\n' :: (Value.spaces m ++ word))
      keyAllowed := false
      possible := if allowed then some (keyAt q tokens indents) else none } := by
    rw [htoken]
    unfold quotedToken?
    rw [markKey?_stand hfirst, Option.bind_eq_bind, Option.bind_some]
    show (quoted? quotes (stand q (quotes.char :: more) allowed tokens indents).rest.tail >>= _) = _
    rw [hrest, hread]
    rfl
  rw [hplace]
  refine ⟨_, hresult, rfl, ?_⟩
  refine settle?_eq ?_ hword rfl rfl fun k hk => keyAt_of_line hindents hcolumn hline hk
  rw [skipBlanks_feed]
  exact skipBlanks_spaces true _ m hword

/-- A text as lines is read, up to the word behind it. -/
theorem next_lines (h : s.settle? = some (stand q (asLines (Value.spaces (column + 2)) cs ++
      (lineEnd cs ++ (Value.spaces m ++ word))) allowed tokens indents))
    (hcs : Writing.of cs = .lines) (hword : StartsWord word)
    (hindents : indents.head? = some column) (hcolumn : column < q.column) (hm : m ≤ column) :
    ∃ t, s.next = some t ∧ t.tokens = .scalar .literal cs :: tokens ∧
      t.settle? = some (stand (q.behind (asLines (Value.spaces (column + 2)) cs ++
        (lineEnd cs ++ Value.spaces m))) word true (.scalar .literal cs :: tokens) indents) := by
  have hcons : asLines (Value.spaces (column + 2)) cs =
      '|' :: (asLines (Value.spaces (column + 2)) cs).tail := by
    rw [asLines_eq]
    rfl
  have hread := block?_spots (Nat.succ_pos column) (q.past '|') hcs hword (Nat.lt_succ_of_le hm)
  rw [hcons, List.cons_append] at h
  rw [hcons, List.cons_append, Position.behind_cons]
  set more := (asLines (Value.spaces (column + 2)) cs).tail ++ (lineEnd cs ++ (Value.spaces m ++ word))
    with hmore
  have hfirst : StartsWord ('|' :: more) := startsWord_cons _ (by decide)
  have hprint : isPrintable '|' = true := by decide
  have hstands := Stands.of_column (s := stand q ('|' :: more) allowed tokens indents)
    rfl rfl hprint (Nat.zero_lt_of_lt hcolumn)
  have htoken : s.next = (stand q ('|' :: more) allowed tokens indents).blockToken? false := by
    rw [next_eq_inside h hfirst hindents (Nat.le_of_lt hcolumn)]
    exact token?_lines hstands
  have hrest : (stand q ('|' :: more) allowed tokens indents).rest.tail = (q.past '|').spots more := by
    show (q.spots ('|' :: more)).tail = _
    rw [q.spots_cons hprint, List.tail_cons]
  have hresult : s.next = some { stand q ('|' :: more) allowed tokens indents with
      tokens := .scalar .literal cs :: tokens
      count := tokens.length + 1
      rest := ((q.past '|').behind ((asLines (Value.spaces (column + 2)) cs).tail ++
        (lineEnd cs ++ Value.spaces m))).spots word
      keyAllowed := true } := by
    rw [htoken]
    unfold blockToken?
    show (block? false (stand q ('|' :: more) allowed tokens indents).margin
      (stand q ('|' :: more) allowed tokens indents).rest.tail >>= _) = _
    rw [hrest, margin_stand _ _ _ _ hindents, hread]
    rfl
  refine ⟨_, hresult, rfl, ?_⟩
  exact settle?_eq (skipBlanks_spaces true _ 0 hword) hword rfl rfl fun k hk => by cases hk

/-- **A text is read as it was written,** behind the space before it. -/
theorem next_text (cs : List Char) (allowed : Bool) (tokens : List Token) (hword : StartsWord word)
    (hindents : indents.head? = some column) (hcolumn : column < p.column) (hm : m ≤ column) :
    ∃ t, (stand p (' ' :: (writeText (Value.spaces (column + 2)) cs ++
        (textEnd cs ++ (Value.spaces m ++ word)))) allowed tokens indents).next = some t ∧
      t.tokens = .scalar (styleOf cs) cs :: tokens ∧
      t.settle? = some (stand (p.behind (' ' :: (writeText (Value.spaces (column + 2)) cs ++
        (textEnd cs ++ Value.spaces m)))) word true (.scalar (styleOf cs) cs :: tokens) indents) := by
  have hcolumn' : column < (p.past ' ').column := by
    rw [p.column_past_space]
    omega
  have hquote : ∀ c, isBreak c = false → ((p.past ' ').past c).column ≠ 0 := by
    intro c hc
    rw [Position.column_past _ hc]
    omega
  rw [Position.behind_cons]
  unfold writeText styleOf textEnd
  cases hwriting : Writing.of cs with
  | plain =>
    have hplain := (Writing.of_eq_plain hwriting).1
    exact next_plain (settle?_stand p 1 _ _ _ (hplain.startsWord _)) hplain hword hindents hcolumn' hm
  | single =>
    have hfeed : isPrintable '\n' = true := by decide
    have hread := quoted?_single (Nat.succ_pos (column + 1)) ((p.past ' ').past '\'') hwriting
      (hquote '\'' rfl) (isPrintable_head? (Value.spaces m ++ word) hfeed) (by simp)
    exact next_quoted .single (settle?_stand p 1 _ _ _ (startsWord_cons _ (by decide))) hread
      hword hindents hcolumn'
  | double =>
    have hread := quoted?_double ((p.past ' ').past '"') cs ('\n' :: (Value.spaces m ++ word))
      (hquote '"' rfl)
    exact next_quoted .double (settle?_stand p 1 _ _ _ (startsWord_cons _ (by decide))) hread
      hword hindents hcolumn'
  | lines =>
    exact next_lines (settle?_stand p 1 _ _ _ (startsWord_cons _ (by decide))) hwriting hword hindents
      hcolumn' hm

end

/-! ## The end -/

/-- At the end all lists and mappings are closed. -/
theorem next_end (h : s.settle? = some (stand q [] allowed tokens (deeper ++ indents)))
    (hdeeper : ∀ i ∈ deeper, q.column < i) (hindents : ∀ i ∈ indents.head?, i ≤ q.column) :
    ∃ t, s.next = some t ∧ t.tokens = .streamEnd :: (ends indents ++ (ends deeper ++ tokens)) := by
  have hall : ∀ i ∈ indents, (fun _ : Nat => true) i = true := fun i _ => rfl
  have htake : indents.takeWhile (fun _ => true) = indents := List.takeWhile_eq_self_iff.2 hall
  have hclose : (stand q [] allowed (ends deeper ++ tokens) indents).closeBlocks (fun _ => true) =
      { stand q [] allowed (ends deeper ++ tokens) indents with
        indents := indents.dropWhile fun _ => true
        tokens := ends indents ++ (ends deeper ++ tokens)
        count := (ends deeper ++ tokens).length + indents.length } := by
    unfold closeBlocks
    rw [inFlow_eq_false rfl]
    show ({ stand q [] allowed (ends deeper ++ tokens) indents with
      indents := indents.dropWhile fun _ => true
      tokens := (indents.takeWhile fun _ => true).map (fun _ => Token.blockEnd) ++
        (ends deeper ++ tokens)
      count := (ends deeper ++ tokens).length + (indents.takeWhile fun _ => true).length } : Scan) = _
    rw [htake]
    rfl
  rw [next_eq h startsWord_nil hdeeper hindents,
    token?_end (congrArg Spot.char (here_stand q startsWord_nil _ _ _))]
  unfold endBlocks?
  rw [hclose]
  exact ⟨_, rfl, rfl⟩

end Scan

end Scaffolder.Yaml
