import Mathlib.Tactic.Set
import Scaffolder.Proofs.Yaml.Quoted
import Scaffolder.Yaml.Scalar.Block

/-!
# Indented lines read back

A text that is written as indented lines is read back up to the line behind it (`block?_spots`).

The reader never looks ahead, so what it has read of a text is a fold over the characters of the
text (`BlockText.feedAll`), whatever lines follow. What the header says of the breaks at the end is
needed only when all is read.
-/

namespace Scaffolder.Yaml

/-! ## What is read of a text -/

namespace BlockText

/-- The text that was read so far, with all breaks behind it. -/
def soFar (b : BlockText) : List Char := b.text.reverse ++ b.lead ++ b.trail.reverse

/-- What is read once a further character is read. `inLine` holds behind the first character of a
line. -/
def feed (inLine : Bool) (b : BlockText) (c : Char) : BlockText :=
  if isBreak c then
    if inLine then { b with lead := [c], trail := [] } else { b with trail := c :: b.trail }
  else if inLine then { b with text := c :: b.text }
  else { b.startLine false c with text := c :: (b.startLine false c).text }

/-- What is read once some further characters are read. -/
def feedAll (inLine : Bool) (b : BlockText) : List Char → BlockText
  | [] => b
  | c :: cs => feedAll (!isBreak c) (b.feed inLine c) cs

/-- Whether a line goes on behind some characters. -/
def endsInLine (inLine : Bool) : List Char → Bool
  | [] => inLine
  | c :: cs => endsInLine (!isBreak c) cs

/-- A text is read character by character, so in parts. -/
theorem feedAll_append (inLine : Bool) (b : BlockText) (cs ds : List Char) :
    b.feedAll inLine (cs ++ ds) = (b.feedAll inLine cs).feedAll (endsInLine inLine cs) ds := by
  induction cs generalizing inLine b with
  | nil => rfl
  | cons c cs ih => exact ih (!isBreak c) (b.feed inLine c)

/-- Where the last part ends, all of it does. -/
theorem endsInLine_append (inLine : Bool) (cs ds : List Char) :
    endsInLine inLine (cs ++ ds) = endsInLine (endsInLine inLine cs) ds := by
  induction cs generalizing inLine with
  | nil => rfl
  | cons c cs ih => exact ih (!isBreak c)

/-- Whether nothing is pending within a line, and at most one break is behind the last line. -/
def Tidy (inLine : Bool) (b : BlockText) : Prop :=
  b.lead.reverse = b.lead ∧ (inLine = true → b.lead = [] ∧ b.trail = [])

/-- **One more character** is what is read so far with that character behind it. -/
theorem Tidy.feed {inLine : Bool} {b : BlockText} (h : b.Tidy inLine) (c : Char) :
    (b.feed inLine c).Tidy (!isBreak c) ∧ (b.feed inLine c).soFar = b.soFar ++ [c] := by
  obtain ⟨hlead, hpending⟩ := h
  unfold BlockText.feed soFar Tidy
  cases hbreak : isBreak c with
  | true =>
    cases inLine with
    | true =>
      obtain ⟨hl, ht⟩ := hpending rfl
      simp [hl, ht]
    | false => simp [hlead]
  | false =>
    cases inLine with
    | true =>
      obtain ⟨hl, ht⟩ := hpending rfl
      simp [hl, ht]
    | false => simp [startLine, hlead]

/-- **All characters are kept.** -/
theorem Tidy.feedAll {inLine : Bool} {b : BlockText} (h : b.Tidy inLine) (cs : List Char) :
    (b.feedAll inLine cs).Tidy (endsInLine inLine cs) ∧
      (b.feedAll inLine cs).soFar = b.soFar ++ cs := by
  induction cs generalizing inLine b with
  | nil => exact ⟨h, by rw [List.append_nil]; rfl⟩
  | cons c cs ih =>
    obtain ⟨htidy, hsofar⟩ := h.feed c
    obtain ⟨htidy', hsofar'⟩ := ih htidy
    refine ⟨htidy', ?_⟩
    rw [BlockText.feedAll, hsofar', hsofar, List.append_assoc, List.singleton_append]

end BlockText

/-! ## Reading lines -/

section

variable {n : Nat}

/-- The spaces before the indentation of a line are passed over. -/
theorem blockFrom_spaces (b : BlockText) (p : Position) (m : Nat) (more : List Char)
    (hm : p.column + m ≤ n) :
    blockFrom false n b false (p.spots (Value.spaces m ++ more)) =
      blockFrom false n b false ((p.behind (Value.spaces m)).spots more) := by
  induction m generalizing p with
  | zero => rfl
  | succ m ih =>
    have hcolumn : p.column < n := by omega
    rw [Value.spaces_succ, List.cons_append, p.spots_space, blockFrom]
    simp only [Position.spot_char, Position.spot_column, hcolumn, and_self, ↓reduceIte]
    rw [ih (p.past ' ') (by rw [p.column_past_space]; omega)]
    rfl

/-- At a line that is not indented enough the scalar ends. -/
theorem blockFrom_end (b : BlockText) (p : Position) {m : Nat} {word : List Char}
    (hword : StartsWord word) (hcolumn : p.column = 0) (hm : m < n) :
    blockFrom false n b false (p.spots (Value.spaces m ++ word)) =
      some (b, (p.behind (Value.spaces m)).spots word) := by
  rw [blockFrom_spaces b p m word (by omega)]
  have hcolumn' : (p.behind (Value.spaces m)).column ≠ n := by
    rw [column_behind_spaces]
    omega
  generalize p.behind (Value.spaces m) = q at hcolumn' ⊢
  cases word with
  | nil =>
    rw [Position.spots_nil, blockFrom]
    simp [endChar, isBreak]
  | cons c cs =>
    obtain ⟨hprint, hspace, hbreak, _⟩ := hword c rfl
    have hne : c ≠ ' ' := by
      rintro rfl
      cases hspace
    have htab : c ≠ '\t' := ne_tab_of_isPrintable hprint
    rw [q.spots_cons hprint, blockFrom]
    simp [hne, htab, hbreak, hcolumn']

/-- **The lines of a text are read as it was,** whatever follows them. -/
theorem blockFrom_padLines (b : BlockText) (inLine : Bool) (p : Position) {cs : List Char}
    (more : List Char) (hprint : ∀ c ∈ cs, isPrintable c = true)
    (hcolumn : inLine = false → p.column = 0) :
    blockFrom false n b inLine (p.spots (padLines (Value.spaces n) false (!inLine) cs ++ more)) =
      blockFrom false n (b.feedAll inLine cs) (BlockText.endsInLine inLine cs)
        ((p.behind (padLines (Value.spaces n) false (!inLine) cs)).spots more) := by
  induction cs generalizing b inLine p with
  | nil => rfl
  | cons c cs ih =>
    have hc := hprint c List.mem_cons_self
    have hcs : ∀ d ∈ cs, isPrintable d = true := fun d hd => hprint d (List.mem_cons_of_mem _ hd)
    have hend : c ≠ endChar := ne_end_of_isPrintable hc
    have htab : c ≠ '\t' := ne_tab_of_isPrintable hc
    rw [padLines, breaksWritten_eq hc, BlockText.feedAll, BlockText.endsInLine]
    cases hbreak : isBreak c with
    | true =>
      have hspace : c ≠ ' ' := by
        rintro rfl
        cases hbreak
      have hrest := ih (b.feed inLine c) false (p.past c) hcs fun _ => p.column_past_of_break hbreak
      simp only [↓reduceIte, List.cons_append, Bool.not_true, Position.behind_cons]
      rw [← Bool.not_false, ← hrest, p.spots_cons hc]
      cases inLine with
      | true =>
        rw [blockFrom]
        simp [hend, hbreak, BlockText.feed]
      | false =>
        rw [blockFrom]
        simp [hspace, htab, hbreak, BlockText.feed]
    | false =>
      have hquote : (if false && c == '\'' then ['\'', c] else [c]) = [c] := rfl
      simp only [Bool.false_eq_true, ↓reduceIte, Bool.not_false, hquote]
      cases inLine with
      | true =>
        have hrest := ih (b.feed true c) true (p.past c) hcs fun h => by cases h
        simp only [Bool.not_true, Bool.false_eq_true, ↓reduceIte, List.nil_append, List.cons_append,
          Position.behind_cons] at hrest ⊢
        rw [← hrest, p.spots_cons hc, blockFrom]
        simp [hend, hbreak, BlockText.feed]
      | false =>
        have hzero := hcolumn rfl
        have hcolumn' : (p.behind (Value.spaces n)).column = n := by
          rw [column_behind_spaces]
          omega
        have hrest := ih (b.feed false c) true ((p.behind (Value.spaces n)).past c) hcs
          fun h => by cases h
        simp only [Bool.not_false, Bool.not_true, ↓reduceIte, List.append_assoc, List.cons_append,
          List.nil_append, Position.behind_cons, Position.behind_append] at hrest ⊢
        rw [← hrest, blockFrom_spaces b p n _ (by omega)]
        generalize p.behind (Value.spaces n) = q at hcolumn' ⊢
        rw [q.spots_cons hc, blockFrom]
        simp [hcolumn', htab, hbreak, hend, BlockText.feed]

/-- Blank lines at the start make no difference to what is read, only to the indentation where that
is not given. -/
theorem leadingBreaks_bind (hn : 0 < n) (deepest : Nat) (breaks : List Char) (spots : List Spot) :
    ((leadingBreaks n deepest breaks spots).bind fun r =>
      blockFrom false n { trail := r.1 } false r.2.2) =
        blockFrom false n { trail := breaks } false spots := by
  have hne : n ≠ 0 := by omega
  induction spots generalizing deepest breaks with
  | nil => rfl
  | cons s rest ih =>
    rw [leadingBreaks]
    simp only [hne, false_or]
    by_cases hspace : s.char = ' ' ∧ s.column < n
    · rw [if_pos hspace, ih, blockFrom, if_pos hspace]
    · rw [if_neg hspace]
      by_cases htab : s.char = '\t' ∧ s.column < n
      · rw [if_pos htab, blockFrom, if_neg hspace, if_pos htab]
        rfl
      · rw [if_neg htab]
        by_cases hbreak : isBreak s.char = true
        · rw [if_pos hbreak, ih, blockFrom, if_neg hspace, if_neg htab, if_pos hbreak]
        · rw [if_neg hbreak]
          rfl

/-- The first line gives the indentation where it is not given. -/
theorem leadingBreaks_zero (p : Position) (k : Nat) {c : Char} (more : List Char)
    (hprint : isPrintable c = true) (hspace : c ≠ ' ') (hbreak : isBreak c = false) :
    leadingBreaks 0 0 [] (p.spots (Value.spaces k ++ c :: more)) =
      some ([], p.column + k, (p.behind (Value.spaces k)).spots (c :: more)) := by
  induction k generalizing p with
  | zero =>
    have htab : c ≠ '\t' := ne_tab_of_isPrintable hprint
    show leadingBreaks 0 0 [] (p.spots (c :: more)) = some ([], p.column, p.spots (c :: more))
    rw [p.spots_cons hprint, leadingBreaks]
    simp [hspace, htab, hbreak]
  | succ k ih =>
    rw [Value.spaces_succ, List.cons_append, p.spots_space, leadingBreaks]
    simp only [Position.spot_char, true_or, and_self, ↓reduceIte]
    rw [ih (p.past ' '), p.column_past_space]
    simp only [Position.behind_cons, Option.some.injEq, Prod.mk.injEq, and_true, true_and]
    omega

end

/-! ## The header -/

/-- What the header says of the breaks at the end of a text. -/
def chompingOf (cs : List Char) : Chomping :=
  match cs.reverse with
  | [] => .strip
  | c :: before =>
      if !breaksWritten c then .strip
      else if before.head?.all breaksWritten then .keep
      else .clip

/-- How the header writes that. -/
def Chomping.written : Chomping → List Char
  | .strip => ['-']
  | .clip => []
  | .keep => ['+']

/-- Whether the header gives the indentation. -/
def hasHint (cs : List Char) : Bool := cs.head?.any fun c => c == ' ' || breaksWritten c

/-- How the header writes the indentation. -/
def hintWritten (hint : Bool) : List Char := if hint then ['2'] else []

/-- A block of lines is its header and the lines of the text. -/
theorem asLines_eq (padding cs : List Char) :
    asLines padding cs = '|' :: (hintWritten (hasHint cs) ++ ((chompingOf cs).written ++
      '\n' :: padLines padding false true cs)) := by
  unfold asLines chompingOf hintWritten hasHint
  cases cs.reverse with
  | nil => simp [Chomping.written]
  | cons c before =>
    simp only [List.cons_append, List.append_assoc, List.cons.injEq, true_and,
      List.append_cancel_left_eq]
    split
    · rfl
    · split
      · rfl
      · rfl

/-- **The header is read back.** -/
theorem blockHeader_spots (p : Position) (hint : Bool) (chomping : Chomping) (more : List Char) :
    blockHeader (p.spots (hintWritten hint ++ (chomping.written ++ '\n' :: more))) =
      (⟨chomping, if hint then some 2 else none⟩,
        (p.behind (hintWritten hint ++ chomping.written)).spots ('\n' :: more)) := by
  have hfeed : ∀ q : Position, q.spots ('\n' :: more) = q.spot '\n' :: (q.past '\n').spots more :=
    fun q => q.spots_feed more
  have htwo : ∀ (q : Position) cs, q.spots ('2' :: cs) = q.spot '2' :: (q.past '2').spots cs :=
    fun q cs => q.spots_cons (by decide) cs
  have hdash : ∀ (q : Position) cs, q.spots ('-' :: cs) = q.spot '-' :: (q.past '-').spots cs :=
    fun q cs => q.spots_cons (by decide) cs
  have hplus : ∀ (q : Position) cs, q.spots ('+' :: cs) = q.spot '+' :: (q.past '+').spots cs :=
    fun q cs => q.spots_cons (by decide) cs
  cases hint <;> cases chomping <;>
    simp only [hintWritten, Chomping.written, Bool.false_eq_true, ↓reduceIte, List.nil_append,
      List.cons_append, Position.behind_cons, Position.behind_nil, hfeed, htwo, hdash, hplus] <;>
    rfl

/-! ## The breaks at the end -/

/-- The line feed that ends the last line of a text, unless the text ends with a break itself. -/
def lineEnd (cs : List Char) : List Char := if chompingOf cs = .strip then ['\n'] else []

/-- How a block is told to end depends on its last two characters. -/
theorem chompingOf_concat (cs : List Char) (c : Char) :
    chompingOf (cs ++ [c]) =
      if !breaksWritten c then .strip else if cs.getLast?.all breaksWritten then .keep else .clip := by
  unfold chompingOf
  rw [List.reverse_append, List.reverse_singleton, List.singleton_append]
  simp only [List.head?_reverse]

/-- A break is added where the last character is none. -/
theorem lineEnd_concat (cs : List Char) (c : Char) :
    lineEnd (cs ++ [c]) = if breaksWritten c then [] else ['\n'] := by
  unfold lineEnd
  rw [chompingOf_concat]
  cases breaksWritten c with
  | false => rfl
  | true =>
    cases cs.getLast?.all breaksWritten with
    | true => rfl
    | false => rfl

/-- A text with the end of its last line is a text before a break. -/
theorem exists_append_lineEnd {cs : List Char} (hprint : ∀ c ∈ cs, isPrintable c = true) :
    ∃ front c, cs ++ lineEnd cs = front ++ [c] ∧ isPrintable c = true ∧ isBreak c = true := by
  rcases List.eq_nil_or_concat cs with rfl | ⟨front, c, rfl⟩
  · exact ⟨[], '\n', rfl, by decide, rfl⟩
  · rw [List.concat_eq_append] at hprint ⊢
    have hc : isPrintable c = true := hprint c (by simp)
    rw [lineEnd_concat, breaksWritten_eq hc]
    cases hbreak : isBreak c with
    | false => exact ⟨front ++ [c], '\n', rfl, by decide, rfl⟩
    | true => exact ⟨front, c, List.append_nil _, hc, hbreak⟩

/-- In a line all that is read is text, and no break is kept back. -/
theorem BlockText.Tidy.text_eq {b : BlockText} (h : b.Tidy true) : b.text.reverse = b.soFar := by
  obtain ⟨hlead, htrail⟩ := h.2 rfl
  unfold soFar
  rw [hlead, htrail]
  simp

/-- A text ends in a line unless it ends with a break. -/
theorem BlockText.endsInLine_concat (inLine : Bool) (cs : List Char) (c : Char) :
    endsInLine inLine (cs ++ [c]) = !isBreak c := by
  rw [endsInLine_append]
  rfl

/-- At first nothing is read. -/
theorem BlockText.tidy_start : Tidy false { trail := [] } := ⟨rfl, nofun⟩

/-- **What is read of a text is the text.** -/
theorem BlockText.soFar_feedAll (cs : List Char) :
    (feedAll false { trail := [] } cs).soFar = cs := (tidy_start.feedAll cs).2

/-- Within a line the text is all that was read. -/
theorem BlockText.text_feedAll_concat (cs : List Char) {c : Char} (hc : isBreak c = false) :
    (feedAll false { trail := [] } (cs ++ [c])).text.reverse = cs ++ [c] := by
  have hinLine := (tidy_start.feedAll (cs ++ [c])).1
  rw [endsInLine_concat, hc] at hinLine
  rw [hinLine.text_eq, soFar_feedAll]

/-- **The breaks at the end are those of the text.** -/
theorem BlockText.finish_feedAll {cs : List Char} (hprint : ∀ c ∈ cs, isPrintable c = true)
    (hne : cs ≠ []) :
    (feedAll false { trail := [] } (cs ++ lineEnd cs)).finish (chompingOf cs) = cs := by
  obtain ⟨front, c, rfl⟩ := (List.eq_nil_or_concat cs).resolve_left hne
  rw [List.concat_eq_append] at hprint ⊢
  have hc : isPrintable c = true := hprint c (by simp)
  unfold lineEnd
  rw [chompingOf_concat, breaksWritten_eq hc]
  cases hbreak : isBreak c with
  | false =>
    -- The line feed that was added is the break that the header drops.
    simp only [Bool.not_false, ↓reduceIte]
    rw [feedAll_append, endsInLine_concat, hbreak]
    show (feedAll false { trail := [] } (front ++ [c])).text.reverse ++ [] = front ++ [c]
    rw [text_feedAll_concat front hbreak, List.append_nil]
  | true =>
    cases hall : front.getLast?.all breaksWritten with
    | true =>
      simp only [Bool.not_true, Bool.false_eq_true, ↓reduceIte, List.append_nil, reduceCtorEq]
      have hkeep : ∀ b : BlockText, b.finish .keep = b.soFar := fun b => by
        simp [finish, soFar]
      rw [hkeep, soFar_feedAll]
    | false =>
      simp only [Bool.not_true, Bool.false_eq_true, ↓reduceIte, List.append_nil, reduceCtorEq]
      cases hlast : front.getLast? with
      | none =>
        rw [hlast] at hall
        cases hall
      | some e =>
        obtain ⟨before, rfl⟩ := List.getLast?_eq_some_iff.1 hlast
        have he : isBreak e = false := by
          rw [hlast, Option.all_some, breaksWritten_eq (hprint e (by simp))] at hall
          exact hall
        rw [feedAll_append, endsInLine_concat, he]
        have hfeed : feedAll (!false) (feedAll false { trail := [] } (before ++ [e])) [c] =
            { feedAll false { trail := [] } (before ++ [e]) with lead := [c], trail := [] } := by
          simp [feedAll, BlockText.feed, hbreak]
        rw [hfeed]
        show (feedAll false { trail := [] } (before ++ [e])).text.reverse ++ [c] = before ++ [e] ++ [c]
        rw [text_feedAll_concat before he]

/-! ## Whole scalars -/

/-- A break at the end has no padding behind it. -/
theorem padLines_concat (padding : List Char) (doubling fresh : Bool) (cs : List Char) {c : Char}
    (hc : breaksWritten c = true) :
    padLines padding doubling fresh (cs ++ [c]) = padLines padding doubling fresh cs ++ [c] := by
  induction cs generalizing fresh with
  | nil => simp [padLines, hc]
  | cons d ds ih =>
    rw [List.cons_append, padLines, padLines]
    split
    · rw [ih, List.cons_append]
    · rw [ih]
      simp only [List.append_assoc]

/-- What the writer has checked of a text that it writes as lines. -/
theorem Writing.of_eq_lines {cs : List Char} (h : Writing.of cs = .lines) :
    (∀ c ∈ cs, isPrintable c = true) ∧ cs ≠ [] := by
  unfold Writing.of at h
  split_ifs at h with hfeed hlines hescape hquotes
  simp only [Bool.or_eq_true, not_or, Bool.not_eq_true] at hlines
  refine ⟨(of_needsEscape hlines.1).1, ?_⟩
  rintro rfl
  cases hfeed

/-- The lines of a text are read back, where what the header says is known. -/
theorem blockFrom_text {n m : Nat} {word : List Char} (p : Position) {cs : List Char}
    (hprint : ∀ c ∈ cs, isPrintable c = true) (hword : StartsWord word) (hcolumn : p.column = 0)
    (hm : m < n) :
    blockFrom false n { trail := [] } false
        (p.spots (padLines (Value.spaces n) false true cs ++
          (lineEnd cs ++ (Value.spaces m ++ word)))) =
      some (BlockText.feedAll false { trail := [] } (cs ++ lineEnd cs),
        (p.behind (padLines (Value.spaces n) false true cs ++
          (lineEnd cs ++ Value.spaces m))).spots word) := by
  obtain ⟨front, c, hfull, hc, hbreak⟩ := exists_append_lineEnd hprint
  have hwritten : padLines (Value.spaces n) false true cs ++ lineEnd cs =
      padLines (Value.spaces n) false true (cs ++ lineEnd cs) := by
    unfold lineEnd
    split
    · rw [padLines_concat _ _ _ _ (by decide)]
    · rw [List.append_nil, List.append_nil]
  have hfullPrint : ∀ d ∈ cs ++ lineEnd cs, isPrintable d = true := by
    intro d hd
    rcases List.mem_append.1 hd with hd | hd
    · exact hprint d hd
    · unfold lineEnd at hd
      split at hd
      · rw [List.mem_singleton.1 hd]
        decide
      · cases hd
  have hspots : padLines (Value.spaces n) false true cs ++ (lineEnd cs ++ (Value.spaces m ++ word)) =
      padLines (Value.spaces n) false true (front ++ [c]) ++ (Value.spaces m ++ word) := by
    rw [← List.append_assoc, hwritten, hfull]
  have hplace : p.behind (padLines (Value.spaces n) false true cs ++ (lineEnd cs ++ Value.spaces m)) =
      (p.behind (padLines (Value.spaces n) false true (front ++ [c]))).behind (Value.spaces m) := by
    rw [← List.append_assoc, hwritten, hfull, Position.behind_append]
  have hzero : (p.behind (padLines (Value.spaces n) false true (front ++ [c]))).column = 0 := by
    rw [padLines_concat _ _ _ _ (breaksWritten_of_isBreak hbreak), Position.behind_append]
    exact Position.column_past_of_break _ hbreak
  rw [hfull] at hfullPrint
  have hread := blockFrom_padLines (n := n) { trail := [] } false p (Value.spaces m ++ word)
    hfullPrint fun _ => hcolumn
  rw [BlockText.endsInLine_concat, hbreak, Bool.not_true, Bool.not_false] at hread
  rw [hspots, hplace, hfull, hread, blockFrom_end _ _ hword hzero hm]

/-- A line feed ends a line. -/
theorem endOfLine?_feed (p : Position) (more : List Char) :
    endOfLine? (p.spots ('\n' :: more)) = some ((p.past '\n').spots more) := by
  rw [p.spots_feed]
  rfl

/-- How a block scalar is read behind its header. -/
theorem block?_of_header {margin deepest n : Nat} {spots rest body start after : List Spot}
    {chomping : Chomping} {given indent : Option Nat} {trail : List Char} {b : BlockText}
    (hheader : blockHeader spots = (⟨chomping, given⟩, rest)) (hgiven : given ≠ some 0)
    (hindent : given.map (fun n => margin - 1 + n) = indent) (hbody : endOfLine? rest = some body)
    (hbreaks : leadingBreaks (indent.getD 0) 0 [] body = some (trail, deepest, start))
    (hn : indent.getD (max deepest (max margin 1)) = n)
    (hlines : blockFrom false n { trail } false start = some (b, after)) :
    block? false margin spots = some (b.finish chomping, after) := by
  subst hindent hn
  unfold block?
  simp only [hheader, hgiven, hbody, ↓reduceIte, Option.bind_eq_bind, Option.bind_some, hbreaks,
    hlines]
  rfl

/-- Where the header gives no indentation the first line does: it is not blank and starts with no
space. -/
theorem leadingBreaks_padLines {n : Nat} (q : Position) {cs : List Char} (more : List Char)
    (hprint : ∀ c ∈ cs, isPrintable c = true) (hne : cs ≠ []) (hhint : hasHint cs = false)
    (hcolumn : q.column = 0) :
    ∃ start,
      leadingBreaks 0 0 [] (q.spots (padLines (Value.spaces n) false true cs ++ more)) =
        some ([], n, start) ∧
      blockFrom false n { trail := [] } false start = blockFrom false n { trail := [] } false
        (q.spots (padLines (Value.spaces n) false true cs ++ more)) := by
  obtain ⟨c, rest, rfl⟩ := List.exists_cons_of_ne_nil hne
  have hc : isPrintable c = true := hprint c List.mem_cons_self
  have hfirst : c ≠ ' ' ∧ isBreak c = false := by
    unfold hasHint at hhint
    rw [List.head?_cons, Option.any_some, breaksWritten_eq hc, Bool.or_eq_false_iff,
      beq_eq_false_iff_ne] at hhint
    exact hhint
  have hlines : padLines (Value.spaces n) false true (c :: rest) ++ more =
      Value.spaces n ++ c :: (padLines (Value.spaces n) false false rest ++ more) := by
    rw [padLines, breaksWritten_eq hc, hfirst.2]
    simp
  have hbreaks := leadingBreaks_zero q n (padLines (Value.spaces n) false false rest ++ more) hc
    hfirst.1 hfirst.2
  rw [hcolumn, Nat.zero_add] at hbreaks
  rw [hlines]
  exact ⟨_, hbreaks, (blockFrom_spaces _ q n _ (by omega)).symm⟩

/-- **A text that is written as lines is read back.** -/
theorem block?_spots {margin m : Nat} {word : List Char} (hmargin : 0 < margin) (p : Position)
    {cs : List Char} (h : Writing.of cs = .lines) (hword : StartsWord word) (hm : m < margin) :
    block? false margin (p.spots ((asLines (Value.spaces (margin + 1)) cs).tail ++
        (lineEnd cs ++ (Value.spaces m ++ word)))) =
      some (cs, (p.behind ((asLines (Value.spaces (margin + 1)) cs).tail ++
        (lineEnd cs ++ Value.spaces m))).spots word) := by
  obtain ⟨hprint, hne⟩ := Writing.of_eq_lines h
  have hfinish := BlockText.finish_feedAll hprint hne
  rw [asLines_eq, List.tail_cons]
  simp only [List.append_assoc, List.cons_append]
  set q := (p.behind (hintWritten (hasHint cs) ++ (chompingOf cs).written)).past '\n' with hq
  have hread := blockFrom_text (n := margin + 1) (m := m) q hprint hword
    (Position.column_past_feed _) (by omega)
  have hplace : p.behind (hintWritten (hasHint cs) ++ ((chompingOf cs).written ++
        '\n' :: (padLines (Value.spaces (margin + 1)) false true cs ++
          (lineEnd cs ++ Value.spaces m)))) =
      q.behind (padLines (Value.spaces (margin + 1)) false true cs ++
        (lineEnd cs ++ Value.spaces m)) := by
    rw [hq, ← List.append_assoc, Position.behind_append, Position.behind_cons]
  have hheader := blockHeader_spots p (hasHint cs) (chompingOf cs)
    (padLines (Value.spaces (margin + 1)) false true cs ++
      (lineEnd cs ++ (Value.spaces m ++ word)))
  have hbody := endOfLine?_feed (p.behind (hintWritten (hasHint cs) ++ (chompingOf cs).written))
    (padLines (Value.spaces (margin + 1)) false true cs ++
      (lineEnd cs ++ (Value.spaces m ++ word)))
  rw [← hq] at hbody
  rw [hplace]
  cases hhint : hasHint cs with
  | true =>
    rw [hhint] at hheader hbody
    rw [← leadingBreaks_bind (by omega) 0] at hread
    obtain ⟨⟨trail, deepest, start⟩, hbreaks, hlines⟩ := Option.bind_eq_some_iff.1 hread
    have hindent : (if true then some 2 else none).map (fun n => margin - 1 + n) =
        some (margin + 1) := congrArg some (show margin - 1 + 2 = margin + 1 by omega)
    have htext := block?_of_header hheader (by decide) hindent hbody hbreaks rfl hlines
    rw [hfinish] at htext
    exact htext
  | false =>
    rw [hhint] at hheader hbody
    obtain ⟨start, hbreaks, hlines⟩ := leadingBreaks_padLines (n := margin + 1) q
      (lineEnd cs ++ (Value.spaces m ++ word)) hprint hne hhint (Position.column_past_feed _)
    rw [hread] at hlines
    have hindent : max (margin + 1) (max margin 1) = margin + 1 := by omega
    have htext := block?_of_header hheader (by decide) rfl hbody hbreaks hindent hlines
    rw [hfinish] at htext
    exact htext

end Scaffolder.Yaml
