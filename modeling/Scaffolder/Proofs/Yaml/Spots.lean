import Scaffolder.Yaml.Scalar.Writing

/-!
# Positions in a written text

The spots of a text character by character. What this library writes holds printable characters
only, so every spot has the character that was written (`Position.spots_cons`), and the text that
a reader has passed over tells where it stands (`Position.behind`).
-/

namespace Scaffolder.Yaml

/-! ## Printable characters -/

/-- A printable character is none that is not. -/
theorem ne_of_isPrintable {c d : Char} (h : isPrintable c = true) (hd : isPrintable d = false) :
    c ≠ d := by
  rintro rfl
  rw [h] at hd
  cases hd

/-- What is printable is not taken for the end of the text. -/
theorem ne_end_of_isPrintable {c : Char} (h : isPrintable c = true) : c ≠ endChar :=
  ne_of_isPrintable h (by decide)

/-- What is printable is no tab, which readers treat unlike other blanks. -/
theorem ne_tab_of_isPrintable {c : Char} (h : isPrintable c = true) : c ≠ '\t' :=
  ne_of_isPrintable h (by decide)

/-- A printable character that breaks a line when it is written does so when it is read. -/
theorem isBreak_of_breaksWritten {c : Char} (h : isPrintable c = true)
    (hc : breaksWritten c = true) : isBreak c = true := by
  have hreturn : (c == '\r') = false := beq_eq_false_iff_ne.2 (ne_of_isPrintable h (by decide))
  have hnext : (c == '\u0085') = false := beq_eq_false_iff_ne.2 (ne_of_isPrintable h (by decide))
  unfold breaksWritten at hc
  rw [hreturn, hnext, Bool.or_false, Bool.or_false] at hc
  exact hc

/-- Whatever breaks a line when it is read does so when it is written. -/
theorem breaksWritten_of_isBreak {c : Char} (h : isBreak c = true) : breaksWritten c = true := by
  unfold breaksWritten
  rw [h]
  rfl

/-- What breaks no line when it is written breaks none when it is read. -/
theorem isBreak_eq_false {c : Char} (h : breaksWritten c = false) : isBreak c = false := by
  rw [Bool.eq_false_iff]
  intro hbreak
  rw [breaksWritten_of_isBreak hbreak] at h
  cases h

/-- Of printable characters, the same break lines when they are written and when they are read. -/
theorem breaksWritten_eq {c : Char} (h : isPrintable c = true) : breaksWritten c = isBreak c := by
  rw [Bool.eq_iff_iff]
  exact ⟨isBreak_of_breaksWritten h, breaksWritten_of_isBreak⟩

/-- A reader refuses no printable character. -/
theorem isAllowed_of_isPrintable {c : Char} (h : isPrintable c = true) : isAllowed c = true := by
  unfold isPrintable at h
  unfold isAllowed
  simp only [Bool.or_eq_true, Bool.and_eq_true, beq_iff_eq, bne_iff_ne, decide_eq_true_eq] at h ⊢
  omega

/-! ## Positions -/

/-- A place in a text. -/
structure Position where
  /-- The line. -/
  line : Nat
  /-- The column. -/
  column : Nat
  /-- How many bytes come before it. -/
  index : Nat

namespace Position

/-- The place behind a character. -/
def past (p : Position) (c : Char) : Position :=
  if isBreak c then ⟨p.line + 1, 0, p.index + c.utf8Size⟩
  else ⟨p.line, p.column + 1, p.index + c.utf8Size⟩

/-- The place behind some characters. -/
def behind (p : Position) (cs : List Char) : Position := cs.foldl past p

/-- A character at a place. -/
def spot (p : Position) (c : Char) : Spot := ⟨c, p.line, p.column, p.index⟩

/-- The spots of a text that starts at a place. -/
def spots (p : Position) (cs : List Char) : List Spot := spotsFrom p.line p.column p.index cs

/-- Behind no characters one stands where one stood. -/
@[simp] theorem behind_nil (p : Position) : p.behind [] = p := rfl

/-- One passes the first character, and then the others. -/
@[simp] theorem behind_cons (p : Position) (c : Char) (cs : List Char) :
    p.behind (c :: cs) = (p.past c).behind cs := rfl

/-- One passes a text, and then what comes after it. -/
@[simp] theorem behind_append (p : Position) (cs ds : List Char) :
    p.behind (cs ++ ds) = (p.behind cs).behind ds := List.foldl_append

/-- The spot of a character holds it. -/
@[simp] theorem spot_char (p : Position) (c : Char) : (p.spot c).char = c := rfl

/-- The spot of a character has the column that one stands in. -/
@[simp] theorem spot_column (p : Position) (c : Char) : (p.spot c).column = p.column := rfl

/-- A text without characters has the spot of its end. -/
@[simp] theorem spots_nil (p : Position) : p.spots [] = [p.spot endChar] := rfl

/-- Past a break one stands at the start of the next line. -/
theorem past_of_break (p : Position) {c : Char} (h : isBreak c = true) :
    p.past c = ⟨p.line + 1, 0, p.index + c.utf8Size⟩ := if_pos h

/-- Past any other character one stands in the next column. -/
theorem past_of_not_break (p : Position) {c : Char} (h : isBreak c = false) :
    p.past c = ⟨p.line, p.column + 1, p.index + c.utf8Size⟩ :=
  if_neg (by rw [h]; exact Bool.false_ne_true)

/-- The first column is the one past a break. -/
theorem column_past_of_break (p : Position) {c : Char} (h : isBreak c = true) :
    (p.past c).column = 0 := by
  rw [past_of_break p h]

/-- The next column is the one past any other character. -/
theorem column_past (p : Position) {c : Char} (h : isBreak c = false) :
    (p.past c).column = p.column + 1 := by
  rw [past_of_not_break p h]

/-- A printable character is a spot, and the rest of the text follows behind it. -/
theorem spots_cons (p : Position) {c : Char} (h : isPrintable c = true) (cs : List Char) :
    p.spots (c :: cs) = p.spot c :: (p.past c).spots cs := by
  have hreturn : c ≠ '\r' := ne_of_isPrintable h (by decide)
  have hnext : c ≠ '\u0085' := ne_of_isPrintable h (by decide)
  unfold spots
  by_cases hfeed : c = '\n'
  · subst hfeed
    rfl
  · rw [spotsFrom]
    · simp only [hreturn, hfeed, hnext, or_self, ↓reduceIte]
      cases hb : isBreak c with
      | true =>
        rw [past_of_break p hb]
        rfl
      | false =>
        rw [past_of_not_break p hb]
        rfl
    · rintro _ rfl
      exact absurd rfl hreturn

/-- The spots of a text that starts with a space. -/
theorem spots_space (p : Position) (cs : List Char) :
    p.spots (' ' :: cs) = p.spot ' ' :: (p.past ' ').spots cs := p.spots_cons (by decide) cs

/-- The spots of a text that starts with a line feed. -/
theorem spots_feed (p : Position) (cs : List Char) :
    p.spots ('\n' :: cs) = p.spot '\n' :: (p.past '\n').spots cs := p.spots_cons (by decide) cs

/-- A space takes one column. -/
@[simp] theorem column_past_space (p : Position) : (p.past ' ').column = p.column + 1 :=
  p.column_past rfl

/-- Behind a line feed a line starts. -/
@[simp] theorem column_past_feed (p : Position) : (p.past '\n').column = 0 :=
  p.column_past_of_break rfl

/-- Text without breaks stays on its line. -/
theorem behind_of_no_break (p : Position) {cs : List Char} (h : ∀ c ∈ cs, isBreak c = false) :
    (p.behind cs).line = p.line ∧ (p.behind cs).column = p.column + cs.length := by
  induction cs generalizing p with
  | nil => exact ⟨rfl, rfl⟩
  | cons c cs ih =>
    obtain ⟨hline, hcolumn⟩ := ih (p.past c) fun d hd => h d (List.mem_cons_of_mem _ hd)
    have hc := h c List.mem_cons_self
    refine ⟨?_, ?_⟩
    · rw [behind_cons, hline, past_of_not_break p hc]
    · rw [behind_cons, hcolumn, column_past p hc, List.length_cons]
      omega

/-- A printable text has a spot for each character and one for its end. -/
theorem length_spots (p : Position) {cs : List Char} (h : ∀ c ∈ cs, isPrintable c = true) :
    (p.spots cs).length = cs.length + 1 := by
  induction cs generalizing p with
  | nil => rfl
  | cons c cs ih =>
    obtain ⟨hc, hcs⟩ := List.forall_mem_cons.1 h
    rw [p.spots_cons hc, List.length_cons, ih _ hcs, List.length_cons]

/-- Lines are only counted up. -/
theorem line_le_behind (p : Position) (cs : List Char) : p.line ≤ (p.behind cs).line := by
  induction cs generalizing p with
  | nil => exact Nat.le_refl _
  | cons c cs ih =>
    have hstep : p.line ≤ (p.past c).line := by
      unfold past
      split
      · exact Nat.le_succ _
      · exact Nat.le_refl _
    exact Nat.le_trans hstep (ih (p.past c))

end Position

end Scaffolder.Yaml
