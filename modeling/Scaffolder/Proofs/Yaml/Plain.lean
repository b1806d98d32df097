import Mathlib.Tactic.SplitIfs
import Scaffolder.Proofs.Yaml.Spots
import Scaffolder.Text.Digits
import Scaffolder.Yaml.Scalar.Plain
import Scaffolder.Yaml.Value

/-!
# Plain scalars read back

A text that is written without quotes is read back up to its end (`ReadsPlain.plain?_spots`).

What the writer has checked about the text as a whole is brought into a form that holds of every
rest of it (`StaysPlain`); the reader is then followed character by character.
-/

namespace Scaffolder.Yaml

/-! ## What follows a scalar -/

/-- Whether a text is empty or starts with a character of a word. -/
def StartsWord (cs : List Char) : Prop :=
  ∀ c ∈ cs.head?, isPrintable c = true ∧ isSpace c = false ∧ isBreak c = false ∧ c ≠ '#'

/-- The end of a text counts as a word, so that something can come last. -/
theorem startsWord_nil : StartsWord [] := by
  simp [StartsWord]

/-- A word starts with what can be seen, unless it starts a comment. -/
theorem startsWord_cons {c : Char} (cs : List Char)
    (h : isPrintable c = true ∧ isSpace c = false ∧ isBreak c = false ∧ c ≠ '#') :
    StartsWord (c :: cs) := by
  simpa [StartsWord] using h

/-- What is asked of the first character of a text, if there is one, is asked of it. -/
theorem isPrintable_head? {c : Char} (cs : List Char) (h : isPrintable c = true) :
    ∀ d ∈ (c :: cs).head?, isPrintable d = true := by
  simpa using h

/-- Of blanks only the space is printable. -/
theorem isSpace_of_isPrintable {c : Char} (h : isPrintable c = true) :
    isSpace c = true ↔ c = ' ' := by
  have htab : c ≠ '\t' := ne_tab_of_isPrintable h
  unfold isSpace
  rw [Bool.or_eq_true, beq_iff_eq, beq_iff_eq]
  exact or_iff_left htab

/-- What is printable and no space is no blank. -/
theorem isSpace_eq_false {c : Char} (h : isPrintable c = true) (hne : c ≠ ' ') :
    isSpace c = false := by
  rw [Bool.eq_false_iff]
  intro hspace
  exact hne ((isSpace_of_isPrintable h).1 hspace)

/-- The first spot of a text that is empty or starts with a printable character. -/
theorem Position.exists_spots_eq (p : Position) {cs : List Char}
    (h : ∀ c ∈ cs.head?, isPrintable c = true) :
    ∃ rest, p.spots cs = p.spot (cs.head?.getD endChar) :: rest := by
  cases cs with
  | nil => exact ⟨[], rfl⟩
  | cons c cs => exact ⟨_, p.spots_cons (h c rfl) cs⟩

/-- A reader looks at the first character, or finds the end. -/
theorem ahead_spots (p : Position) {cs : List Char} (h : ∀ c ∈ cs.head?, isPrintable c = true) :
    ahead 0 (p.spots cs) = cs.head?.getD endChar := by
  obtain ⟨rest, hrest⟩ := p.exists_spots_eq h
  rw [hrest]
  rfl

/-- A mark starts at the left edge. -/
theorem atMark_of_column {s : Spot} {rest : List Spot} (h : s.column ≠ 0) :
    atMark (s :: rest) = false := by
  have hcolumn : (s.column == 0) = false := beq_eq_false_iff_ne.2 h
  unfold atMark startsWithMark
  simp only [List.head?_cons, Option.any_some, hcolumn, Bool.false_and, Bool.or_self]

/-! ## Texts that stay plain -/

/-- No two neighbours are of some sort if the first two are not, and none behind them. -/
theorem anyAdjacent_cons {p : Char → Char → Bool} {c : Char} {cs : List Char} :
    anyAdjacent p (c :: cs) = false ↔
      (∀ d ∈ cs.head?, p c d = false) ∧ anyAdjacent p cs = false := by
  unfold anyAdjacent
  cases cs with
  | nil => simp
  | cons d ds => simp

/-- Whether a text can be read on as a plain scalar. `afterGap` holds behind a space. -/
def StaysPlain (afterGap : Bool) : List Char → Prop
  | [] => afterGap = false
  | c :: cs =>
      (isPrintable c = true ∧ isBreak c = false) ∧ (afterGap = true → c ≠ '#') ∧
        (c = ':' → ∃ d ∈ cs.head?, d ≠ ' ') ∧ StaysPlain (c == ' ') cs

/-- A text that stays plain is printable and has no breaks. -/
theorem StaysPlain.of_mem {afterGap : Bool} {cs : List Char} (h : StaysPlain afterGap cs) :
    ∀ c ∈ cs, isPrintable c = true ∧ isBreak c = false := by
  induction cs generalizing afterGap with
  | nil => exact List.forall_mem_nil _
  | cons d ds ih =>
    obtain ⟨hfirst, _, _, hrest⟩ := h
    intro c hc
    rcases List.mem_cons.1 hc with rfl | hc
    · exact hfirst
    · exact ih hrest c hc

/-- A text without breaks, marks and spaces at its end stays plain. -/
theorem staysPlain_of_unmarked {cs : List Char} {afterGap : Bool}
    (printable : ∀ c ∈ cs, isPrintable c = true) (unbroken : ∀ c ∈ cs, isBreak c = false)
    (hcolon : cs.getLast? ≠ some ':')
    (hgap : anyAdjacent (fun c d => c == ':' && isWrittenGap (some d)) cs = false)
    (hcomment : anyAdjacent (fun c d => isWrittenGap (some c) && d == '#') cs = false)
    (hspace : cs.getLast? ≠ some ' ') (hfirst : afterGap = true → cs ≠ [] ∧ cs.head? ≠ some '#') :
    StaysPlain afterGap cs := by
  induction cs generalizing afterGap with
  | nil =>
    unfold StaysPlain
    cases afterGap with
    | false => rfl
    | true => exact absurd rfl (hfirst rfl).1
  | cons c cs ih =>
    rw [anyAdjacent_cons] at hgap hcomment
    refine ⟨⟨printable c List.mem_cons_self, unbroken c List.mem_cons_self⟩, ?_, ?_, ?_⟩
    · intro hafter hc
      exact (hfirst hafter).2 (congrArg some hc)
    · rintro rfl
      cases cs with
      | nil => exact absurd rfl hcolon
      | cons d ds =>
        refine ⟨d, rfl, ?_⟩
        rintro rfl
        exact absurd (hgap.1 ' ' rfl) (by decide)
    · refine ih (fun d hd => printable d (List.mem_cons_of_mem _ hd))
        (fun d hd => unbroken d (List.mem_cons_of_mem _ hd)) ?_ hgap.2 hcomment.2 ?_ ?_
      · cases cs with
        | nil => simp
        | cons d ds => rwa [List.getLast?_cons_cons] at hcolon
      · cases cs with
        | nil => simp
        | cons d ds => rwa [List.getLast?_cons_cons] at hspace
      · intro hc
        obtain rfl := beq_iff_eq.1 hc
        refine ⟨?_, ?_⟩
        · rintro rfl
          exact hspace rfl
        · intro hhash
          exact absurd (hcomment.1 '#' hhash) (by decide)

/-! ## Reading -/

/-- One more space. -/
theorem Value.spaces_succ (n : Nat) : Value.spaces (n + 1) = ' ' :: Value.spaces n := rfl

/-- Behind the break after its last word a plain scalar ends at the next word, if that is not
indented enough. -/
theorem plainFrom_indentation {margin : Nat} (acc : List Char) (first : Option Char)
    (more : List Char) (p : Position) {m : Nat} {word : List Char} (hword : StartsWord word)
    (hm : p.column + m < margin) :
    plainFrom false margin acc (some (.breaks first more)) (p.spots (Value.spaces m ++ word)) =
      some ⟨acc.reverse, true, (p.behind (Value.spaces m)).spots word⟩ := by
  induction m generalizing p with
  | zero =>
    show plainFrom false margin acc (some (.breaks first more)) (p.spots word) =
      some ⟨acc.reverse, true, p.spots word⟩
    obtain ⟨rest, hrest⟩ := p.exists_spots_eq fun c hc => (hword c hc).1
    rw [hrest]
    have hspace : isSpace (word.head?.getD endChar) = false := by
      cases word with
      | nil => rfl
      | cons c cs => exact (hword c rfl).2.1
    have hbreak : isBreak (word.head?.getD endChar) = false := by
      cases word with
      | nil => rfl
      | cons c cs => exact (hword c rfl).2.2.1
    have hend : endsPlain false true margin (p.spot (word.head?.getD endChar)) rest = true := by
      have hcolumn : decide ((p.spot (word.head?.getD endChar)).column < margin) = true :=
        decide_eq_true (by rw [Position.spot_column]; omega)
      unfold endsPlain
      rw [hcolumn]
      simp
    unfold plainFrom
    simp only [Position.spot_char, hspace, hbreak, hend, Bool.false_and, Bool.false_eq_true,
      ↓reduceIte, Option.isSome_some, Option.any_some, Between.breaksLine]
  | succ m ih =>
    rw [Value.spaces_succ, List.cons_append, p.spots_space]
    have hrest := ih (p.past ' ') (by rw [p.column_past_space]; omega)
    unfold plainFrom
    simp only [Position.spot_char, show isSpace ' ' = true from rfl, ↓reduceIte,
      show (' ' = '\t') = False from by decide, decide_false, Bool.false_and, Bool.false_eq_true,
      Option.getD_some, Between.addSpace]
    exact hrest

/-- A character that can be seen is no gap. -/
theorem isGap_eq_false {c : Char} (hprint : isPrintable c = true) (hbreak : isBreak c = false)
    (hne : c ≠ ' ') : isGap c = false := by
  have hspace : isSpace c = false := isSpace_eq_false hprint hne
  have hend : (c == endChar) = false := beq_eq_false_iff_ne.2 (ne_end_of_isPrintable hprint)
  unfold isGap
  rw [hspace, hbreak, hend]
  rfl

/-- What is no gap when it is written is none when it is read. -/
theorem isGap_of_isWrittenGap {c : Option Char} (h : isWrittenGap c = false) :
    isGap (c.getD endChar) = false := by
  cases c with
  | none => cases h
  | some d =>
    unfold isWrittenGap at h
    simp only [Option.all_some, Bool.or_eq_false_iff] at h
    obtain ⟨⟨⟨hspace, htab⟩, hbreak⟩, hend⟩ := h
    have hunbroken : isBreak d = false := isBreak_eq_false hbreak
    rw [Option.getD_some]
    unfold isGap isSpace
    rw [hspace, htab, hunbroken, hend]
    rfl

/-- A plain scalar does not end at a printable character that is indented enough, is no colon before
a gap and no comment. -/
theorem endsPlain_eq_false {afterGap : Bool} {margin : Nat} {p : Position} {c : Char}
    {rest : List Spot} (hprint : isPrintable c = true) (hmargin : margin ≤ p.column)
    (hpos : 0 < margin) (hcolon : c = ':' → isGap (ahead 0 rest) = false)
    (hcomment : afterGap = true → c ≠ '#') :
    endsPlain false afterGap margin (p.spot c) rest = false := by
  have hend : (c == endChar) = false := beq_eq_false_iff_ne.2 (ne_end_of_isPrintable hprint)
  have hmark : atMark (p.spot c :: rest) = false :=
    atMark_of_column (by rw [Position.spot_column]; omega)
  have hkey : (c == ':' && isGap (ahead 0 rest)) = false := by
    rw [Bool.and_eq_false_imp]
    intro h
    exact hcolon (beq_iff_eq.1 h)
  have hindented : decide (p.column < margin) = false := decide_eq_false (by omega)
  have hword : (afterGap && (c == '#' || (!false && decide (p.column < margin)))) = false := by
    rw [hindented, Bool.and_eq_false_imp]
    intro h
    simpa using hcomment h
  unfold endsPlain
  rw [Position.spot_char, Position.spot_column, hend, hmark, hkey, hword]
  rfl

/-- **A text that stays plain is read to its end.** -/
theorem plainFrom_spots {margin : Nat} (acc : List Char) (gap : Option (List Char)) (p : Position)
    {cs : List Char} {m : Nat} {word : List Char} (stays : StaysPlain gap.isSome cs)
    (hword : StartsWord word) (hmargin : margin ≤ p.column) (hpos : 0 < margin) (hm : m < margin) :
    plainFrom false margin acc (gap.map .spaces) (p.spots (cs ++ '\n' :: (Value.spaces m ++ word))) =
      some ⟨acc.reverse ++ (gap.map List.reverse).getD [] ++ cs, true,
        (p.behind (cs ++ '\n' :: Value.spaces m)).spots word⟩ := by
  induction cs generalizing acc gap p with
  | nil =>
    cases gap with
    | some g => cases stays
    | none =>
      rw [List.nil_append, p.spots_feed]
      have hcolumn : (p.past '\n').column + m < margin := by
        rw [p.column_past_feed]
        omega
      have hrest := plainFrom_indentation acc (some '\n') [] (p.past '\n') hword hcolumn
      unfold plainFrom
      simp only [Option.map_none, Position.spot_char, show isSpace '\n' = false from rfl,
        show isBreak '\n' = true from rfl, Bool.false_eq_true, ↓reduceIte, Option.getD_none,
        Between.addBreak, List.append_nil, List.nil_append, Position.behind_cons]
      exact hrest
  | cons c cs ih =>
    obtain ⟨⟨hprint, hbreak⟩, hcomment, hcolon, hstays⟩ := stays
    rw [List.cons_append, p.spots_cons hprint]
    have hcolumn : margin ≤ (p.past c).column := by
      rw [p.column_past hbreak]
      omega
    by_cases hc : c = ' '
    · subst hc
      have hrest := ih acc (some (' ' :: gap.getD [])) (p.past ' ') hstays hcolumn
      unfold plainFrom
      simp only [Position.spot_char, show isSpace ' ' = true from rfl, ↓reduceIte,
        show (' ' = '\t') = False from by decide, decide_false, Bool.false_and, Bool.false_eq_true]
      cases gap with
      | none => simpa [Between.addSpace] using hrest
      | some g => simpa [Between.addSpace] using hrest
    · have hspace : isSpace c = false := isSpace_eq_false hprint hc
      have hrest := ih (c :: ((((gap.map Between.spaces).map Between.fold).getD []).reverse ++ acc))
        none (p.past c) (by rwa [show (c == ' ') = false from beq_eq_false_iff_ne.2 hc] at hstays)
        hcolumn
      have hend : endsPlain false (gap.map Between.spaces).isSome margin (p.spot c)
          ((p.past c).spots (cs ++ '\n' :: (Value.spaces m ++ word))) = false := by
        refine endsPlain_eq_false hprint hmargin hpos ?_ (fun hgap => hcomment (by simpa using hgap))
        intro hc
        obtain ⟨d, hd, hne⟩ := hcolon hc
        obtain ⟨ds, rfl⟩ := List.head?_eq_some_iff.1 hd
        obtain ⟨⟨hprint', hbreak'⟩, _⟩ := hstays
        rw [ahead_spots _ (by simpa using hprint')]
        exact isGap_eq_false hprint' hbreak' hne
      unfold plainFrom
      simp only [Position.spot_char, hspace, hbreak, hend, Bool.false_and, Bool.false_eq_true,
        ↓reduceIte]
      cases gap with
      | none => simpa using hrest
      | some g => simpa [Between.fold] using hrest

/-! ## What is written without quotes -/

/-- Whether a text is read as a plain scalar wherever it starts behind the left edge. -/
structure ReadsPlain (cs : List Char) : Prop where
  /-- No character in it ends it. -/
  stays : StaysPlain false cs
  /-- It starts nothing else. -/
  unmarked : startsMarked cs = false
  /-- It does not start with a space. -/
  unpadded : ∃ c ∈ cs.head?, c ≠ ' '

/-- What needs no escape is printable, and has no space before a break. -/
theorem of_needsEscape {cs : List Char} (h : needsEscape cs = false) :
    (∀ c ∈ cs, isPrintable c = true) ∧
      anyAdjacent (fun c d => c == ' ' && breaksWritten d) cs = false := by
  unfold needsEscape at h
  simpa only [Bool.or_eq_false_iff, List.any_eq_false, Bool.not_eq_true', Bool.not_eq_false] using h

/-- What the writer has checked of a text that it writes without quotes. -/
theorem Writing.of_eq_plain {cs : List Char} (h : Writing.of cs = .plain) :
    ReadsPlain cs ∧ Meaning.ofPlain cs = .text := by
  unfold Writing.of at h
  split_ifs at h with hfeed hlines hescape hquotes
  simp only [Bool.or_eq_true, not_or, Bool.not_eq_true, decide_eq_true_eq, ne_eq,
    Decidable.not_not] at hescape hquotes
  obtain ⟨hprint, _⟩ := of_needsEscape hescape.1
  obtain ⟨⟨⟨⟨hmeaning, _⟩, hpadded⟩, hbreaks⟩, hmarked⟩ := hquotes
  unfold isPadded at hpadded
  unfold isMarked at hmarked
  simp only [Bool.or_eq_false_iff, List.any_eq_false, Bool.not_eq_true, beq_eq_false_iff_ne]
    at hpadded hbreaks hmarked
  obtain ⟨⟨⟨⟨_, hstart⟩, hcolon⟩, hgap⟩, hcomment⟩ := hmarked
  have hunbroken : ∀ c ∈ cs, isBreak c = false := fun c hc => isBreak_eq_false (hbreaks c hc)
  refine ⟨⟨?_, hstart, ?_⟩, hmeaning⟩
  · exact staysPlain_of_unmarked hprint hunbroken hcolon hgap hcomment hpadded.2 nofun
  · cases cs with
    | nil => cases hmeaning
    | cons c cs =>
      refine ⟨c, rfl, ?_⟩
      rintro rfl
      exact hpadded.1 rfl

namespace ReadsPlain

variable {cs : List Char}

/-- What reads plain starts with a character that can be seen. -/
theorem exists_cons (h : ReadsPlain cs) :
    ∃ c rest, cs = c :: rest ∧ isPrintable c = true ∧ isBreak c = false ∧ c ≠ ' ' := by
  obtain ⟨hstays, _, c, hc, hne⟩ := h
  obtain ⟨rest, rfl⟩ := List.head?_eq_some_iff.1 hc
  exact ⟨c, rest, rfl, hstays.1.1, hstays.1.2, hne⟩

/-- What reads plain starts a word. -/
theorem startsWord (h : ReadsPlain cs) (more : List Char) : StartsWord (cs ++ more) := by
  have hstart := h.unmarked
  obtain ⟨c, rest, rfl, hprint, hbreak, hne⟩ := h.exists_cons
  refine startsWord_cons _ ⟨hprint, isSpace_eq_false hprint hne, hbreak, ?_⟩
  rintro rfl
  cases hstart

/-- What comes behind a text does not change how it starts. -/
theorem startsMarked_append (h : ReadsPlain cs) (more : List Char) :
    startsMarked (cs ++ more) = false := by
  have hstart := h.unmarked
  obtain ⟨c, rest, rfl, _⟩ := h.exists_cons
  unfold startsMarked at hstart ⊢
  cases rest with
  | nil =>
    have hgap : isWrittenGap none = true := rfl
    simp only [List.head?_nil, hgap, Bool.and_true, Bool.or_eq_false_iff] at hstart
    simp only [List.cons_append, hstart, Bool.false_and, Bool.or_self]
  | cons d ds => exact hstart

/-- **It is read to its end.** -/
theorem plain?_spots (h : ReadsPlain cs) (margin : Nat) (p : Position) {m : Nat}
    {word : List Char} (hword : StartsWord word) (hmargin : margin ≤ p.column) (hm : m < margin) :
    plain? false margin (p.spots (cs ++ '\n' :: (Value.spaces m ++ word))) =
      some ⟨cs, true, (p.behind (cs ++ '\n' :: Value.spaces m)).spots word⟩ := by
  have hread := plainFrom_spots [] none p h.stays hword hmargin (by omega) hm
  unfold plain?
  simpa using hread

end ReadsPlain

/-! ## Names of fields -/

/-- Whether a text can be the name of a field that is read as one: lower-case letters, not too many
of them. -/
def IsFieldName (cs : List Char) : Prop :=
  cs ≠ [] ∧ (∀ c ∈ cs, c.isLower = true) ∧ cs.length ≤ 1024

instance : DecidablePred IsFieldName := fun cs =>
  decidable_of_iff (cs ≠ [] ∧ cs.all Char.isLower = true ∧ cs.length ≤ 1024)
    (by rw [List.all_eq_true]; rfl)

/-- A lower-case letter is printable. -/
theorem isPrintable_of_isLower {c : Char} (h : c.isLower = true) : isPrintable c = true := by
  have hrange := Text.toNat_of_isLower h
  unfold isPrintable
  simp only [Bool.or_eq_true, Bool.and_eq_true, beq_iff_eq, bne_iff_ne, decide_eq_true_eq]
  omega

/-- A lower-case letter is nothing that is not one. -/
theorem ne_of_isLower {c d : Char} (h : c.isLower = true) (hd : d.isLower = false) : c ≠ d := by
  rintro rfl
  rw [h] at hd
  cases hd

/-- A lower-case letter breaks no line. -/
theorem isBreak_of_isLower {c : Char} (h : c.isLower = true) : isBreak c = false := by
  unfold isBreak
  rw [beq_eq_false_iff_ne.2 (ne_of_isLower h (by decide)),
    beq_eq_false_iff_ne.2 (ne_of_isLower h (by decide)),
    beq_eq_false_iff_ne.2 (ne_of_isLower h (by decide))]
  rfl

/-- A lower-case letter is no blank. -/
theorem isSpace_of_isLower {c : Char} (h : c.isLower = true) : isSpace c = false := by
  unfold isSpace
  rw [beq_eq_false_iff_ne.2 (ne_of_isLower h (by decide)),
    beq_eq_false_iff_ne.2 (ne_of_isLower h (by decide))]
  rfl

/-- A letter is none of some other characters. -/
theorem notMem_of_isLower {c : Char} (h : c.isLower = true) {ds : List Char}
    (hds : ds.all (fun d => !d.isLower) = true) : ds.contains c = false := by
  rw [← Bool.not_eq_true, List.contains_iff_mem]
  intro hc
  have hnot := List.all_eq_true.1 hds c hc
  rw [h] at hnot
  cases hnot

/-- The name of a field starts a word. -/
theorem startsWord_name {name : List Char} (h : IsFieldName name) (more : List Char) :
    StartsWord (name ++ more) := by
  obtain ⟨hne, hlower, _⟩ := h
  obtain ⟨c, cs, rfl⟩ := List.exists_cons_of_ne_nil hne
  have hc := hlower c List.mem_cons_self
  exact startsWord_cons _ ⟨isPrintable_of_isLower hc, isSpace_of_isLower hc, isBreak_of_isLower hc,
    ne_of_isLower hc (by decide)⟩

/-- A letter is one byte long. -/
theorem Position.behind_name {name : List Char} (hname : ∀ c ∈ name, c.isLower = true) (q : Position) :
    (q.behind name).line = q.line ∧ (q.behind name).column = q.column + name.length ∧
      (q.behind name).index = q.index + name.length := by
  obtain ⟨hline, hcolumn⟩ := q.behind_of_no_break fun c hc => isBreak_of_isLower (hname c hc)
  refine ⟨hline, hcolumn, ?_⟩
  clear hline hcolumn
  induction name generalizing q with
  | nil => rfl
  | cons c cs ih =>
    have hc := hname c List.mem_cons_self
    have hsize : c.utf8Size = 1 := by
      rw [Char.utf8Size_eq_one_iff]
      exact Nat.le_trans (Text.toNat_of_isLower hc).2 (by decide)
    rw [Position.behind_cons, ih (fun d hd => hname d (List.mem_cons_of_mem _ hd)),
      q.past_of_not_break (isBreak_of_isLower hc), hsize, List.length_cons]
    show q.index + 1 + cs.length = q.index + (cs.length + 1)
    omega

/-- A letter starts no mark. -/
theorem atMark_of_isLower {p : Position} {c : Char} (h : c.isLower = true) (rest : List Spot) :
    atMark (p.spot c :: rest) = false := by
  have hdash : (ahead 0 (p.spot c :: rest) == '-') = false :=
    beq_eq_false_iff_ne.2 (ne_of_isLower h (by decide))
  have hdot : (ahead 0 (p.spot c :: rest) == '.') = false :=
    beq_eq_false_iff_ne.2 (ne_of_isLower h (by decide))
  unfold atMark startsWithMark
  rw [hdash, hdot]
  simp

/-- Behind the colon of a field comes a gap. -/
theorem isGap_ahead (p : Position) {more : List Char}
    (hmore : more.head? = some ' ' ∨ more.head? = some '\n') :
    isGap (ahead 0 (p.spots more)) = true := by
  rcases hmore with h | h
  · obtain ⟨rest, rfl⟩ := List.head?_eq_some_iff.1 h
    rw [p.spots_space]
    rfl
  · obtain ⟨rest, rfl⟩ := List.head?_eq_some_iff.1 h
    rw [p.spots_feed]
    rfl

/-- **The name of a field is read up to the colon behind it.** -/
theorem plainFrom_name (margin : Nat) (acc : List Char) (p : Position) {name more : List Char}
    (hname : ∀ c ∈ name, c.isLower = true) (hmore : more.head? = some ' ' ∨ more.head? = some '\n') :
    plainFrom false margin acc none (p.spots (name ++ ':' :: more)) =
      some ⟨acc.reverse ++ name, false, (p.behind name).spots (':' :: more)⟩ := by
  induction name generalizing acc p with
  | nil =>
    have hgap := isGap_ahead (p.past ':') hmore
    have hend : endsPlain false false margin (p.spot ':') ((p.past ':').spots more) = true := by
      unfold endsPlain
      rw [hgap]
      simp
    rw [List.nil_append, p.spots_cons (by decide)]
    unfold plainFrom
    simp only [Position.spot_char, show isSpace ':' = false from rfl,
      show isBreak ':' = false from rfl, hend, Bool.false_and, Bool.false_eq_true, ↓reduceIte,
      Option.isSome_none, Option.any_none, List.append_nil, Position.behind_nil]
    rw [p.spots_cons (by decide)]
  | cons c cs ih =>
    have hc := hname c List.mem_cons_self
    have hprint := isPrintable_of_isLower hc
    have hrest := ih (c :: acc) (p.past c) fun d hd => hname d (List.mem_cons_of_mem _ hd)
    have hend : endsPlain false false margin (p.spot c) ((p.past c).spots (cs ++ ':' :: more)) =
        false := by
      unfold endsPlain
      rw [Position.spot_char, atMark_of_isLower hc,
        beq_eq_false_iff_ne.2 (ne_of_isLower hc (by decide)),
        beq_eq_false_iff_ne.2 (ne_of_isLower hc (by decide))]
      rfl
    rw [List.cons_append, p.spots_cons hprint]
    unfold plainFrom
    simp only [Position.spot_char, isSpace_of_isLower hc, isBreak_of_isLower hc, hend,
      Bool.false_and, Bool.false_eq_true, ↓reduceIte, Option.isSome_none, Option.map_none,
      Option.getD_none, List.reverse_nil, List.nil_append]
    simpa using hrest

end Scaffolder.Yaml
