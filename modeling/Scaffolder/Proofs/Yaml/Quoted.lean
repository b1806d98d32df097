import Mathlib.Algebra.Group.Nat.Defs
import Scaffolder.Proofs.Yaml.Plain
import Scaffolder.Yaml.Scalar.Quoted

/-!
# Quoted scalars read back

A text that is written between quotes of either kind is read back up to the closing quote
(`quoted?_double`, `quoted?_single`).

Between double quotes every break and every character that cannot be seen is an escape, so nothing
is folded; the escapes are inverse to their reading (`quotedFrom_escape`). Between single quotes a
break stays a break, and the padding behind it is dropped again when the lines are folded.
-/

namespace Scaffolder.Yaml

/-! ## Numbers in escapes -/

/-- The number that some hexadecimal digits write behind a number. -/
def hexFold (value : Nat) (ds : List Char) : Nat :=
  ds.foldl (fun n d => n * 16 + (hexValue? d).getD 0) value

/-- Whether a character is a hexadecimal digit as it is written. -/
def IsHexDigit (d : Char) : Prop := (hexValue? d).isSome = true ∧ isPrintable d = true

/-- A digit is read as the number that it is written for. -/
theorem hexDigit_of_lt {d : Nat} (h : d < 16) :
    hexValue? d.digitChar.toUpper = some d ∧ isPrintable d.digitChar.toUpper = true := by
  revert d
  decide

/-- Digits behind digits go on from their number. -/
theorem hexFold_append (value : Nat) (ds es : List Char) :
    hexFold value (ds ++ es) = hexFold (hexFold value ds) es := List.foldl_append

/-- **The digits of a number are read as that number.** -/
theorem hexFold_toDigits (n : Nat) :
    hexFold 0 ((Nat.toDigits 16 n).map Char.toUpper) = n ∧
      ∀ d ∈ (Nat.toDigits 16 n).map Char.toUpper, IsHexDigit d := by
  induction n using Nat.strongRecOn with
  | _ n ih =>
    rw [Nat.toDigits_eq_if (by decide)]
    split_ifs with hlt
    · obtain ⟨hvalue, hprint⟩ := hexDigit_of_lt hlt
      refine ⟨?_, ?_⟩
      · simp [hexFold, hvalue]
      · intro d hd
        obtain rfl : d = n.digitChar.toUpper := by simpa using hd
        exact ⟨by rw [hvalue]; rfl, hprint⟩
    · obtain ⟨hfold, hall⟩ := ih (n / 16) (by omega)
      obtain ⟨hvalue, hprint⟩ := hexDigit_of_lt (Nat.mod_lt n (by decide : 0 < 16))
      rw [List.map_append]
      refine ⟨?_, ?_⟩
      · rw [hexFold_append, hfold]
        simp only [hexFold, List.map_cons, List.map_nil, List.foldl_cons, hvalue, Option.getD_some,
          List.foldl_nil]
        omega
      · intro d hd
        rcases List.mem_append.1 hd with hd | hd
        · exact hall d hd
        · obtain rfl : d = (n % 16).digitChar.toUpper := by simpa using hd
          exact ⟨by rw [hvalue]; rfl, hprint⟩

/-- Hexadecimal digits write the number, with zeros before it. -/
theorem hexFold_hexDigits (width n : Nat) : hexFold 0 (hexDigits width n) = n := by
  unfold hexDigits
  have hzeros : ∀ k, hexFold 0 (List.replicate k '0') = 0 := by
    intro k
    induction k with
    | zero => rfl
    | succ k ih => exact ih
  rw [hexFold_append, hzeros, (hexFold_toDigits n).1]

/-- The digits that are written are digits, and so are the zeros before them. -/
theorem isHexDigit_of_mem {width n : Nat} {d : Char} (h : d ∈ hexDigits width n) :
    IsHexDigit d := by
  unfold hexDigits at h
  rcases List.mem_append.1 h with h | h
  · rw [List.eq_of_mem_replicate h]
    exact ⟨by decide, by decide⟩
  · exact (hexFold_toDigits n).2 d h

/-- A number that has room is written with as many digits as there is room. -/
theorem length_hexDigits {width n : Nat} (hpos : 0 < width) (h : n < 16 ^ width) :
    (hexDigits width n).length = width := by
  have hle := (Nat.length_toDigits_le_iff (by decide) hpos).2 h
  unfold hexDigits
  simp only [List.length_append, List.length_replicate, List.length_map]
  omega

/-- The number of a character is read as that character. -/
theorem charOfNumber?_toNat (c : Char) : charOfNumber? c.toNat = some c := by
  have hvalid : c.toNat.isValidChar := c.valid
  unfold charOfNumber?
  rw [dif_pos hvalid]
  rfl

/-- The digits of an escape are read as the character that they number. -/
theorem quotedFrom_number (acc : List Char) (p : Position) {value : Nat} {ds : List Char}
    (more : List Char) {c : Char} (hne : ds ≠ []) (hds : ∀ d ∈ ds, IsHexDigit d)
    (hc : hexFold value ds = c.toNat) :
    quotedFrom .double acc (.number ds.length value) (p.spots (ds ++ more)) =
      quotedFrom .double (c :: acc) .word ((p.behind ds).spots more) := by
  induction ds generalizing p value with
  | nil => exact absurd rfl hne
  | cons d ds ih =>
    obtain ⟨hsome, hprint⟩ := hds d List.mem_cons_self
    obtain ⟨v, hv⟩ := Option.isSome_iff_exists.1 hsome
    have hfold : hexFold (value * 16 + v) ds = c.toNat := by
      rw [← hc]
      simp [hexFold, hv]
    rw [List.cons_append, p.spots_cons hprint]
    cases ds with
    | nil =>
      have hvalue : value * 16 + v = c.toNat := hfold
      rw [quotedFrom]
      simp only [Position.spot_char, hv, List.length_singleton, Nat.lt_irrefl, ↓reduceIte, hvalue,
        charOfNumber?_toNat, List.nil_append, Position.behind_cons, Position.behind_nil]
    | cons e es =>
      have hlt : 1 < (d :: e :: es).length := by simp
      rw [quotedFrom]
      simp only [Position.spot_char, hv, hlt, ↓reduceIte]
      exact ih (p.past d) (by simp) (fun d' hd => hds d' (List.mem_cons_of_mem _ hd)) hfold

/-! ## Escapes -/

/-- A one-letter escape is read as the character that it stands for. -/
theorem quotedFrom_letter (acc : List Char) (p : Position) {l c : Char} (more : List Char)
    (hprint : isPrintable l = true) (hbreak : isBreak l = false) (hdigits : escapeDigits? l = none)
    (hc : escaped? l = some c) :
    quotedFrom .double acc .escape (p.spots (l :: more)) =
      quotedFrom .double (c :: acc) .word ((p.past l).spots more) := by
  rw [p.spots_cons hprint, quotedFrom]
  simp only [Position.spot_char, hbreak, hdigits, hc, Bool.false_eq_true, ↓reduceIte]

/-- A numbered escape is read as the character that it numbers. -/
theorem quotedFrom_numbered (acc : List Char) (p : Position) {l c : Char} {width : Nat}
    (more : List Char) (hprint : isPrintable l = true) (hbreak : isBreak l = false)
    (hdigits : escapeDigits? l = some width) (hpos : 0 < width) (hc : c.toNat < 16 ^ width) :
    quotedFrom .double acc .escape (p.spots (l :: hexDigits width c.toNat ++ more)) =
      quotedFrom .double (c :: acc) .word ((p.behind (l :: hexDigits width c.toNat)).spots more) := by
  have hlength := length_hexDigits hpos hc
  have hne : hexDigits width c.toNat ≠ [] := by
    intro h
    rw [h] at hlength
    simp at hlength
    omega
  have hread := quotedFrom_number acc (p.past l) more hne (fun d hd => isHexDigit_of_mem hd)
    (hexFold_hexDigits width c.toNat)
  rw [hlength] at hread
  rw [List.cons_append, p.spots_cons hprint, quotedFrom]
  simp only [Position.spot_char, hbreak, hdigits, Bool.false_eq_true, ↓reduceIte]
  exact hread

/-- The two forms of an escape: a letter, or a letter and digits. -/
inductive EscapeOf (c : Char) : List Char → Prop
  | letter (l : Char) (hprint : isPrintable l = true) (hbreak : isBreak l = false)
      (hdigits : escapeDigits? l = none) (hc : escaped? l = some c) : EscapeOf c [l]
  | numbered (l : Char) (width : Nat) (hprint : isPrintable l = true) (hbreak : isBreak l = false)
      (hdigits : escapeDigits? l = some width) (hpos : 0 < width) (hc : c.toNat < 16 ^ width) :
      EscapeOf c (l :: hexDigits width c.toNat)

/-- A letter is an escape of the character that it is read as. -/
theorem EscapeOf.of_letter {c : Char} (l d : Char) (h : c.toNat = d.toNat)
    (hl : (isPrintable l && !isBreak l && (escapeDigits? l).isNone && escaped? l = some d) = true) :
    EscapeOf c [l] := by
  obtain rfl := Char.toNat_inj.1 h
  simp only [Bool.and_eq_true, Bool.not_eq_true', Option.isNone_iff_eq_none, decide_eq_true_eq] at hl
  exact .letter l hl.1.1.1 hl.1.1.2 hl.1.2 hl.2

/-- An escape that is one of two is an escape if each is. -/
theorem EscapeOf.ite {c : Char} {P : Prop} [Decidable P] {body body' : List Char}
    (h : P → EscapeOf c body) (h' : ¬P → EscapeOf c body') :
    EscapeOf c (if P then body else body') := by
  split
  · next hp => exact h hp
  · next hp => exact h' hp

/-- **Every escape is a backslash and what reads back the character.** -/
theorem escapeChar_cases (c : Char) : ∃ body, escapeChar c = '\\' :: body ∧ EscapeOf c body := by
  refine ⟨_, rfl, ?_⟩
  refine .ite (fun h => .of_letter '0' '\x00' h (by decide)) fun _ => ?_
  refine .ite (fun h => .of_letter 'a' '\x07' h (by decide)) fun _ => ?_
  refine .ite (fun h => .of_letter 'b' '\x08' h (by decide)) fun _ => ?_
  refine .ite (fun h => .of_letter 't' '\t' h (by decide)) fun _ => ?_
  refine .ite (fun h => .of_letter 'n' '\n' h (by decide)) fun _ => ?_
  refine .ite (fun h => .of_letter 'v' '\x0b' h (by decide)) fun _ => ?_
  refine .ite (fun h => .of_letter 'f' '\x0c' h (by decide)) fun _ => ?_
  refine .ite (fun h => .of_letter 'r' '\r' h (by decide)) fun _ => ?_
  refine .ite (fun h => .of_letter 'e' '\x1b' h (by decide)) fun _ => ?_
  refine .ite (fun h => .of_letter '"' '"' h (by decide)) fun _ => ?_
  refine .ite (fun h => .of_letter '\\' '\\' h (by decide)) fun _ => ?_
  refine .ite (fun h => .of_letter 'N' '\u0085' h (by decide)) fun _ => ?_
  refine .ite (fun h => .of_letter '_' '\u00a0' h (by decide)) fun _ => ?_
  refine .ite (fun h => .of_letter 'L' '\u2028' h (by decide)) fun _ => ?_
  refine .ite (fun h => .of_letter 'P' '\u2029' h (by decide)) fun _ => ?_
  refine .ite (fun h => ?_) fun _ => .ite (fun h => ?_) fun _ => ?_
  · exact .numbered 'x' 2 (by decide) (by decide) rfl (by decide) (by omega)
  · exact .numbered 'u' 4 (by decide) (by decide) rfl (by decide) (by omega)
  · have hvalid : c.toNat < 0x110000 := by
      have hc := c.valid
      simp only [UInt32.isValidChar, Nat.isValidChar] at hc
      show c.val.toNat < 0x110000
      omega
    exact .numbered 'U' 8 (by decide) (by decide) rfl (by decide) (by omega)

/-- **Every escape is read as the character that it was made for.** -/
theorem quotedFrom_escape (acc : List Char) (p : Position) {c : Char} {body : List Char}
    (h : EscapeOf c body) (more : List Char) :
    quotedFrom .double acc .escape (p.spots (body ++ more)) =
      quotedFrom .double (c :: acc) .word ((p.behind body).spots more) := by
  cases h with
  | letter l hprint hbreak hdigits hc =>
    exact quotedFrom_letter acc p more hprint hbreak hdigits hc
  | numbered l width hprint hbreak hdigits hpos hc =>
    exact quotedFrom_numbered acc p more hprint hbreak hdigits hpos hc

/-! ## One character -/

section

variable (quotes : Quotes) (acc : List Char) (gap : Between) (p : Position) (more : List Char)

/-- In a word a reader goes on as behind no spaces. -/
theorem quotedFrom_word (spots : List Spot) :
    quotedFrom quotes acc .word spots = quotedFrom quotes acc (.between (.spaces [])) spots := by
  cases spots with
  | nil => rfl
  | cons s rest => rfl

/-- A space is kept back until something comes that is neither a space nor a break. -/
theorem quotedFrom_space : quotedFrom quotes acc (.between gap) (p.spots (' ' :: more)) =
    quotedFrom quotes acc (.between (gap.addSpace ' ')) ((p.past ' ').spots more) := by
  rw [p.spots_space, quotedFrom]
  · rfl
  all_goals simp

variable {c : Char} (hprint : isPrintable c = true)

include hprint

/-- A break is kept back until something comes that is neither a space nor a break. -/
theorem quotedFrom_break (hbreak : isBreak c = true) :
    quotedFrom quotes acc (.between gap) (p.spots (c :: more)) =
      quotedFrom quotes acc (.between (gap.addBreak c)) ((p.past c).spots more) := by
  have hend : c ≠ endChar := ne_end_of_isPrintable hprint
  have hspace : isSpace c = false := by
    apply isSpace_eq_false hprint
    rintro rfl
    cases hbreak
  rw [p.spots_cons hprint, quotedFrom]
  · simp only [Position.spot_char, hend, hspace, hbreak, Bool.false_eq_true, ↓reduceIte,
      QuotedPhase.gap]
  all_goals simp

variable (hbreak : isBreak c = false) (hspace : c ≠ ' ') (hcolumn : p.column ≠ 0)

include hbreak hspace hcolumn

/-- What a reader does at the character of a word. -/
theorem quotedFrom_char :
    quotedFrom quotes acc (.between gap) (p.spots (c :: more)) =
      if c = quotes.char then
        match quotes with
        | .single => quotedFrom quotes (gap.fold.reverse ++ acc) .quote ((p.past c).spots more)
        | .double => some ((gap.fold.reverse ++ acc).reverse, (p.past c).spots more)
      else if quotes = .double ∧ c = '\\' then
        quotedFrom quotes (gap.fold.reverse ++ acc) .escape ((p.past c).spots more)
      else quotedFrom quotes (c :: (gap.fold.reverse ++ acc)) .word ((p.past c).spots more) := by
  have hend : c ≠ endChar := ne_end_of_isPrintable hprint
  have hspace' : isSpace c = false := isSpace_eq_false hprint hspace
  have hmark : atMark (p.spot c :: (p.past c).spots more) = false :=
    atMark_of_column hcolumn
  rw [p.spots_cons hprint, quotedFrom]
  · simp only [Position.spot_char, hend, hspace', hbreak, hmark, Bool.false_eq_true, ↓reduceIte,
      QuotedPhase.pending]
    rfl
  all_goals simp

/-- The character of a word, unless it is the quote or starts an escape. -/
theorem quotedFrom_letterOfWord (hquote : c ≠ quotes.char)
    (hescape : quotes = .single ∨ c ≠ '\\') :
    quotedFrom quotes acc (.between gap) (p.spots (c :: more)) =
      quotedFrom quotes (c :: (gap.fold.reverse ++ acc)) (.between (.spaces []))
        ((p.past c).spots more) := by
  rw [quotedFrom_char quotes acc gap p more hprint hbreak hspace hcolumn, if_neg hquote, if_neg,
    quotedFrom_word]
  rintro ⟨hdouble, hc⟩
  rcases hescape with hsingle | hne
  · rw [hdouble] at hsingle
    cases hsingle
  · exact hne hc

end

/-! ## Between double quotes -/

/-- A character as it is written between double quotes. -/
def writtenInQuotes (c : Char) : List Char :=
  if !isPrintable c || breaksWritten c || c == '"' || c == '\\' then escapeChar c else [c]

/-- A digit breaks no line. -/
theorem isBreak_of_isHexDigit {d : Char} (h : IsHexDigit d) : isBreak d = false := by
  rw [Bool.eq_false_iff]
  intro hb
  unfold isBreak at hb
  rw [Bool.or_eq_true, Bool.or_eq_true, beq_iff_eq, beq_iff_eq, beq_iff_eq] at hb
  rcases hb with (rfl | rfl) | rfl
  · exact absurd h.1 (by decide)
  · exact absurd h.1 (by decide)
  · exact absurd h.1 (by decide)

/-- What stands in an escape is printable and breaks no line. -/
theorem EscapeOf.of_mem {c d : Char} {body : List Char} (h : EscapeOf c body) (hd : d ∈ body) :
    isPrintable d = true ∧ isBreak d = false := by
  cases h with
  | letter l hprint hbreak hdigits hc =>
    rw [List.mem_singleton.1 hd]
    exact ⟨hprint, hbreak⟩
  | numbered l width hprint hbreak hdigits hpos hc =>
    rcases List.mem_cons.1 hd with rfl | hd
    · exact ⟨hprint, hbreak⟩
    · have hdigit := isHexDigit_of_mem hd
      exact ⟨hdigit.2, isBreak_of_isHexDigit hdigit⟩

/-- What is written between double quotes is read as it was. -/
theorem quotedFrom_double (acc spaces : List Char) (p : Position) (cs more : List Char)
    (hcolumn : p.column ≠ 0) :
    quotedFrom .double acc (.between (.spaces spaces))
        (p.spots (cs.flatMap writtenInQuotes ++ '"' :: more)) =
      some (acc.reverse ++ spaces.reverse ++ cs,
        (p.behind (cs.flatMap writtenInQuotes ++ ['"'])).spots more) := by
  induction cs generalizing acc spaces p with
  | nil =>
    rw [List.flatMap_nil, List.nil_append,
      quotedFrom_char _ _ _ _ _ (by decide) (by decide) (by decide) hcolumn]
    simp [Quotes.char, Between.fold]
  | cons c cs ih =>
    rw [List.flatMap_cons, List.append_assoc]
    by_cases hc : !isPrintable c || breaksWritten c || c == '"' || c == '\\'
    · obtain ⟨body, hescape, hbody⟩ := escapeChar_cases c
      have hwritten : writtenInQuotes c = '\\' :: body := by
        unfold writtenInQuotes
        rw [if_pos hc, hescape]
      have hcolumn' : (((p.past '\\').behind body)).column ≠ 0 := by
        rw [((p.past '\\').behind_of_no_break fun d hd => (hbody.of_mem hd).2).2,
          p.column_past rfl]
        omega
      have hrest := ih (c :: (spaces ++ acc)) [] ((p.past '\\').behind body) hcolumn'
      rw [hwritten, List.cons_append,
        quotedFrom_char _ _ _ _ _ (by decide) (by decide) (by decide) hcolumn]
      simp only [Quotes.char, show ('\\' = '"') = False from by decide, ↓reduceIte, true_and,
        Between.fold, List.reverse_reverse]
      rw [quotedFrom_escape _ _ hbody, quotedFrom_word, hrest]
      simp
    · have hwritten : writtenInQuotes c = [c] := by
        unfold writtenInQuotes
        rw [if_neg hc]
      simp only [Bool.or_eq_true, Bool.not_eq_true', not_or, Bool.not_eq_false, Bool.not_eq_true,
        beq_iff_eq] at hc
      obtain ⟨⟨⟨hprint, hbreaks⟩, hquote⟩, hback⟩ := hc
      have hbreak : isBreak c = false := isBreak_eq_false hbreaks
      have hcolumn' : (p.past c).column ≠ 0 := by
        rw [p.column_past hbreak]
        omega
      rw [hwritten, List.singleton_append]
      by_cases hspace : c = ' '
      · subst hspace
        rw [quotedFrom_space, Between.addSpace, ih acc (' ' :: spaces) _ hcolumn']
        simp
      · rw [quotedFrom_letterOfWord .double _ _ _ _ hprint hbreak hspace hcolumn hquote (.inr hback),
          ih _ [] _ hcolumn']
        simp [Between.fold]

/-- **A text between double quotes is read back.** -/
theorem quoted?_double (p : Position) (cs more : List Char) (hcolumn : p.column ≠ 0) :
    quoted? .double (p.spots ((doubleQuoted cs).tail ++ more)) =
      some (cs, (p.behind (doubleQuoted cs).tail).spots more) := by
  have htail : (doubleQuoted cs).tail = cs.flatMap writtenInQuotes ++ ['"'] := rfl
  unfold quoted?
  rw [htail, List.append_assoc, List.singleton_append, quotedFrom_word,
    quotedFrom_double [] [] p cs more hcolumn]
  rfl

/-! ## Between single quotes -/

/-- Whether a text can be read on between single quotes behind a character: it has no line feeds,
and no space next to a break. -/
def StaysSingle (before : Char) : List Char → Prop
  | [] => True
  | c :: cs =>
      (isPrintable c = true ∧ c ≠ '\n') ∧ ¬(before = ' ' ∧ isBreak c = true) ∧
        ¬(isBreak before = true ∧ c = ' ') ∧ StaysSingle c cs

/-- A text stays single-quoted if no space stands beside a break in it. -/
theorem staysSingle_of_adjacent {before : Char} {cs : List Char}
    (printable : ∀ c ∈ cs, isPrintable c = true) (nofeed : ∀ c ∈ cs, c ≠ '\n')
    (hbefore : anyAdjacent (fun c d => c == ' ' && breaksWritten d) (before :: cs) = false)
    (hbehind : anyAdjacent (fun c d => breaksWritten c && d == ' ') (before :: cs) = false) :
    StaysSingle before cs := by
  induction cs generalizing before with
  | nil => exact trivial
  | cons c cs ih =>
    rw [anyAdjacent_cons] at hbefore hbehind
    refine ⟨⟨printable c List.mem_cons_self, nofeed c List.mem_cons_self⟩, ?_, ?_, ?_⟩
    · rintro ⟨rfl, hc⟩
      have := hbefore.1 c rfl
      rw [breaksWritten_of_isBreak hc] at this
      exact absurd this (by decide)
    · rintro ⟨hb, rfl⟩
      have := hbehind.1 ' ' rfl
      rw [breaksWritten_of_isBreak hb] at this
      exact absurd this (by decide)
    · exact ih (fun d hd => printable d (List.mem_cons_of_mem _ hd))
        (fun d hd => nofeed d (List.mem_cons_of_mem _ hd)) hbefore.2 hbehind.2

/-- Whether a gap is what a reader has gathered since the last word: breaks of which the first is no
line feed, or spaces. -/
def Gathered (before : Char) (gap : Between) : Prop :=
  (isBreak before = true ∧ ∃ b bs, b ≠ '\n' ∧ gap = .breaks (some b) bs) ∨
    (isBreak before = false ∧ ∃ spaces, (spaces ≠ [] → before = ' ') ∧ gap = .spaces spaces)

/-- Where the first break is no line feed, all breaks are kept when lines are folded. -/
theorem fold_breaks {b : Char} (h : b ≠ '\n') (bs : List Char) :
    (Between.breaks (some b) bs).fold = b :: bs.reverse := by
  unfold Between.fold
  split
  · next heq => cases heq
  · next heq =>
    cases heq
    exact absurd rfl h
  · next heq =>
    cases heq
    exact absurd rfl h
  · next heq =>
    cases heq
    rfl

/-- One more break that is no line feed is kept when lines are folded. -/
theorem Gathered.addBreak {before c : Char} {gap : Between} (h : Gathered before gap)
    (hspace : before ≠ ' ') (hbreak : isBreak c = true) (hfeed : c ≠ '\n') :
    Gathered c (gap.addBreak c) ∧ (gap.addBreak c).fold = gap.fold ++ [c] := by
  obtain ⟨_, b, bs, hb, rfl⟩ | ⟨_, spaces, hspaces, rfl⟩ := h
  · refine ⟨.inl ⟨hbreak, b, c :: bs, hb, rfl⟩, ?_⟩
    rw [Between.addBreak, fold_breaks hb, fold_breaks hb]
    simp
  · obtain rfl : spaces = [] := Decidable.byContradiction fun hne => hspace (hspaces hne)
    refine ⟨.inl ⟨hbreak, c, [], hfeed, rfl⟩, ?_⟩
    rw [Between.addBreak, fold_breaks hfeed]
    rfl

/-- Spaces behind a break are dropped. -/
theorem quotedFrom_padding (quotes : Quotes) (acc : List Char) (first : Option Char)
    (bs : List Char) (p : Position) (n : Nat) (more : List Char) :
    quotedFrom quotes acc (.between (.breaks first bs)) (p.spots (Value.spaces n ++ more)) =
      quotedFrom quotes acc (.between (.breaks first bs)) ((p.behind (Value.spaces n)).spots more) := by
  induction n generalizing p with
  | zero => rfl
  | succ n ih =>
    rw [Value.spaces_succ, List.cons_append, quotedFrom_space, Between.addSpace, ih]
    rfl

/-- Spaces take one column each. -/
theorem column_behind_spaces (p : Position) (n : Nat) :
    (p.behind (Value.spaces n)).column = p.column + n := by
  have hbreak : ∀ c ∈ Value.spaces n, isBreak c = false := by
    intro c hc
    rw [List.eq_of_mem_replicate hc]
    rfl
  rw [(p.behind_of_no_break hbreak).2]
  unfold Value.spaces
  rw [List.length_replicate]

/-- Behind the end of its last line a text stands where the next line is indented. -/
theorem column_behind_line (p : Position) (front : List Char) {c : Char} (hc : isBreak c = true)
    (m : Nat) :
    (p.behind (front ++ [c] ++ Value.spaces m)).column = m := by
  rw [Position.behind_append, column_behind_spaces, Position.behind_append]
  show ((p.behind front).past c).column + m = m
  rw [Position.column_past_of_break _ hc, Nat.zero_add]

/-- A single quote is the end, or the first half of a quote in the text. -/
theorem quotedFrom_openQuote (acc : List Char) (gap : Between) (p : Position)
    (hcolumn : p.column ≠ 0) (more : List Char) :
    quotedFrom .single acc (.between gap) (p.spots ('\'' :: more)) =
      quotedFrom .single (gap.fold.reverse ++ acc) .quote ((p.past '\'').spots more) := by
  rw [quotedFrom_char _ _ _ _ _ (by decide) (by decide) (by decide) hcolumn]
  exact if_pos rfl

/-- The second of two quotes is part of the text. -/
theorem quotedFrom_quote (acc : List Char) (p : Position) (more : List Char) :
    quotedFrom .single acc .quote (p.spots ('\'' :: more)) =
      quotedFrom .single ('\'' :: acc) (.between (.spaces [])) ((p.past '\'').spots more) := by
  rw [p.spots_cons (by decide), quotedFrom, Position.spot_char, if_pos rfl, quotedFrom_word]

/-- A quote that no other follows ends the scalar. -/
theorem quotedFrom_end (acc : List Char) (p : Position) {more : List Char}
    (hprint : ∀ c ∈ more.head?, isPrintable c = true) (hmore : more.head? ≠ some '\'') :
    quotedFrom .single acc .quote (p.spots more) = some (acc.reverse, p.spots more) := by
  obtain ⟨rest, hrest⟩ := p.exists_spots_eq hprint
  have hchar : more.head?.getD endChar ≠ '\'' := by
    cases more with
    | nil => decide
    | cons c cs =>
      intro hc
      exact hmore (congrArg some hc)
  rw [hrest, quotedFrom, Position.spot_char, if_neg hchar]

/-- What stands before the next word or the closing quote: the padding of a new line. -/
def paddingBehind (n : Nat) (before : Char) : List Char :=
  if isBreak before then Value.spaces n else []

/-- A reader passes over the padding of a line, and stands behind the left edge then. -/
theorem quotedFrom_paddingBehind {n : Nat} (hn : 0 < n) {before : Char} {gap : Between}
    (gathered : Gathered before gap) (acc : List Char) (p : Position)
    (hcolumn : isBreak before = false → p.column ≠ 0) (more : List Char) :
    quotedFrom .single acc (.between gap) (p.spots (paddingBehind n before ++ more)) =
        quotedFrom .single acc (.between gap) ((p.behind (paddingBehind n before)).spots more) ∧
      (p.behind (paddingBehind n before)).column ≠ 0 := by
  unfold paddingBehind
  obtain ⟨hbreak, b, bs, _, rfl⟩ | ⟨hbreak, spaces, _, rfl⟩ := gathered
  · rw [if_pos hbreak]
    refine ⟨quotedFrom_padding .single acc (some b) bs p n more, ?_⟩
    rw [column_behind_spaces]
    omega
  · rw [if_neg (by rw [hbreak]; exact Bool.false_ne_true)]
    exact ⟨rfl, hcolumn hbreak⟩

/-- The last character of a text, or the one before it if the text is empty. -/
def lastBehind (before : Char) (cs : List Char) : Char := cs.getLast?.getD before

/-- The last character of a text is the last behind its first one. -/
theorem lastBehind_cons (before c : Char) (cs : List Char) :
    lastBehind before (c :: cs) = lastBehind c cs := by
  unfold lastBehind
  cases cs with
  | nil => rfl
  | cons d ds =>
    rw [List.getLast?_cons_cons]
    cases h : (d :: ds).getLast? with
    | none => simp at h
    | some e => rfl

/-- A character of a word as it is written between single quotes. -/
def writtenSingle (c : Char) : List Char := if c == '\'' then ['\'', c] else [c]

/-- **A character is read as it is written,** a single quote twice. -/
theorem quotedFrom_writtenSingle (acc : List Char) (gap : Between) (p : Position) {c : Char}
    (more : List Char) (hprint : isPrintable c = true) (hbreak : isBreak c = false)
    (hspace : c ≠ ' ') (hcolumn : p.column ≠ 0) :
    quotedFrom .single acc (.between gap) (p.spots (writtenSingle c ++ more)) =
        quotedFrom .single (c :: (gap.fold.reverse ++ acc)) (.between (.spaces []))
          ((p.behind (writtenSingle c)).spots more) ∧
      (p.behind (writtenSingle c)).column ≠ 0 := by
  unfold writtenSingle
  by_cases hquote : c = '\''
  · subst hquote
    rw [if_pos (beq_self_eq_true _)]
    refine ⟨?_, ?_⟩
    · rw [List.cons_append, quotedFrom_openQuote _ _ _ hcolumn, List.cons_append, quotedFrom_quote]
      rfl
    · rw [Position.behind_cons, Position.behind_cons, Position.behind_nil, Position.column_past _ rfl]
      omega
  · rw [beq_eq_false_iff_ne.2 hquote, if_neg Bool.false_ne_true]
    refine ⟨?_, ?_⟩
    · exact quotedFrom_letterOfWord .single _ _ _ _ hprint hbreak hspace hcolumn hquote (.inl rfl)
    · rw [Position.behind_cons, Position.behind_nil, Position.column_past _ hbreak]
      omega

/-- What is written between single quotes is read as it was. -/
theorem quotedFrom_single {n : Nat} (hn : 0 < n) (acc : List Char) {gap : Between} (p : Position)
    {before : Char} {cs more : List Char} (stays : StaysSingle before cs)
    (gathered : Gathered before gap) (hcolumn : isBreak before = false → p.column ≠ 0)
    (hprint : ∀ c ∈ more.head?, isPrintable c = true) (hmore : more.head? ≠ some '\'') :
    quotedFrom .single acc (.between gap)
        (p.spots (padLines (Value.spaces n) true (isBreak before) cs ++
          (paddingBehind n (lastBehind before cs) ++ '\'' :: more))) =
      some (acc.reverse ++ gap.fold ++ cs,
        (p.behind (padLines (Value.spaces n) true (isBreak before) cs ++
          (paddingBehind n (lastBehind before cs) ++ ['\'']))).spots more) := by
  induction cs generalizing acc gap p before with
  | nil =>
    obtain ⟨hpadding, hcolumn'⟩ :=
      quotedFrom_paddingBehind hn gathered acc p hcolumn ('\'' :: more)
    have hlast : lastBehind before [] = before := rfl
    rw [padLines, List.nil_append, List.nil_append, hlast, hpadding,
      quotedFrom_openQuote _ _ _ hcolumn', quotedFrom_end _ _ hprint hmore]
    simp
  | cons c cs ih =>
    obtain ⟨⟨hc, hfeed⟩, hbefore, hbehind, hstays⟩ := stays
    rw [lastBehind_cons, padLines, breaksWritten_eq hc]
    cases hbreak : isBreak c with
    | true =>
      have hspace : before ≠ ' ' := fun h => hbefore ⟨h, hbreak⟩
      obtain ⟨hgathered, hfold⟩ := gathered.addBreak hspace hbreak hfeed
      have hrest := ih acc (p.past c) hstays hgathered (by simp [hbreak])
      rw [hbreak] at hrest
      simp only [↓reduceIte, List.cons_append]
      rw [quotedFrom_break _ _ _ _ _ hc hbreak, hrest, hfold]
      simp
    | false =>
      have hnext : (p.past c).column ≠ 0 := by
        rw [p.column_past hbreak]
        omega
      simp only [Bool.false_eq_true, ↓reduceIte]
      by_cases hspace : c = ' '
      · subst hspace
        obtain ⟨hb, _⟩ | ⟨hb, spaces, _, rfl⟩ := gathered
        · exact absurd ⟨hb, rfl⟩ hbehind
        · have hgathered : Gathered ' ' (.spaces (' ' :: spaces)) :=
            .inr ⟨rfl, _, fun _ => rfl, rfl⟩
          have hrest := ih acc (p.past ' ') hstays hgathered fun _ => hnext
          rw [hbreak] at hrest
          simp only [hb, Bool.false_eq_true, ↓reduceIte, List.nil_append, show
            (' ' == '\'') = false from rfl, Bool.and_false, List.cons_append]
          rw [quotedFrom_space, Between.addSpace, hrest]
          simp [Between.fold]
      · have hgathered : Gathered c (.spaces []) := .inr ⟨hbreak, [], fun h => absurd rfl h, rfl⟩
        have hwritten : (if isBreak before then Value.spaces n else []) ++
            (if true && c == '\'' then ['\'', c] else [c]) ++ padLines (Value.spaces n) true false cs =
              paddingBehind n before ++ (writtenSingle c ++ padLines (Value.spaces n) true false cs) :=
          List.append_assoc ..
        obtain ⟨hpadding, hcolumn'⟩ := quotedFrom_paddingBehind hn gathered acc p hcolumn
          (writtenSingle c ++ (padLines (Value.spaces n) true false cs ++
            (paddingBehind n (lastBehind c cs) ++ '\'' :: more)))
        obtain ⟨hword, hcolumn''⟩ := quotedFrom_writtenSingle acc gap
          (p.behind (paddingBehind n before)) (padLines (Value.spaces n) true false cs ++
            (paddingBehind n (lastBehind c cs) ++ '\'' :: more)) hc hbreak hspace hcolumn'
        have hrest := ih (c :: (gap.fold.reverse ++ acc))
          ((p.behind (paddingBehind n before)).behind (writtenSingle c)) hstays hgathered
          fun _ => hcolumn''
        rw [hbreak] at hrest
        rw [hwritten]
        simp only [List.append_assoc]
        rw [hpadding, hword, hrest]
        simp [Between.fold, Position.behind_append]

/-- What the writer has checked of a text that it writes between single quotes. -/
theorem Writing.of_eq_single {cs : List Char} (h : Writing.of cs = .single) :
    (∀ c ∈ cs, isPrintable c = true) ∧ StaysSingle '\'' cs := by
  unfold Writing.of at h
  split_ifs at h with hfeed hlines hescape hquotes
  simp only [Bool.or_eq_true, not_or, Bool.not_eq_true] at hescape
  obtain ⟨hneeds, hbehind⟩ := hescape
  obtain ⟨hprint, hbefore⟩ := of_needsEscape hneeds
  refine ⟨hprint, staysSingle_of_adjacent hprint ?_ ?_ ?_⟩
  · rintro c hc rfl
    exact hfeed (List.contains_iff_mem.2 hc)
  · exact anyAdjacent_cons.2 ⟨fun d _ => rfl, hbefore⟩
  · exact anyAdjacent_cons.2 ⟨fun d _ => rfl, hbehind⟩

/-- The text between single quotes and the closing quote are the lines of the text and what pads the
last. -/
theorem singleQuoted_eq {n : Nat} {cs : List Char} (hprint : ∀ c ∈ cs, isPrintable c = true) :
    (singleQuoted (Value.spaces n) cs).tail =
      padLines (Value.spaces n) true false cs ++ (paddingBehind n (lastBehind '\'' cs) ++ ['\'']) := by
  have hending : (if cs.getLast?.any breaksWritten then Value.spaces n else []) =
      paddingBehind n (lastBehind '\'' cs) := by
    unfold paddingBehind lastBehind
    cases hlast : cs.getLast? with
    | none => rfl
    | some c =>
      rw [Option.any_some, Option.getD_some, breaksWritten_eq (hprint c (List.mem_of_getLast? hlast))]
  unfold singleQuoted
  rw [hending, List.append_assoc, List.cons_append, List.tail_cons]

/-- **A text between single quotes is read back.** -/
theorem quoted?_single {n : Nat} (hn : 0 < n) (p : Position) {cs more : List Char}
    (h : Writing.of cs = .single) (hcolumn : p.column ≠ 0)
    (hprint : ∀ c ∈ more.head?, isPrintable c = true) (hmore : more.head? ≠ some '\'') :
    quoted? .single (p.spots ((singleQuoted (Value.spaces n) cs).tail ++ more)) =
      some (cs, (p.behind (singleQuoted (Value.spaces n) cs).tail).spots more) := by
  obtain ⟨hcs, hstays⟩ := Writing.of_eq_single h
  have hgathered : Gathered '\'' (.spaces []) := .inr ⟨rfl, [], fun h => absurd rfl h, rfl⟩
  have hread := quotedFrom_single hn [] p hstays hgathered (fun _ => hcolumn) hprint hmore
  unfold quoted?
  rw [singleQuoted_eq hcs, quotedFrom_word]
  simp only [List.append_assoc, List.singleton_append]
  exact hread

end Scaffolder.Yaml
