import Mathlib.Data.List.Basic
import Mathlib.Tactic.SplitIfs
import Scaffolder.Text.Cut

/-!
# Texts in pieces

Pieces that are joined with something between them, and found again where it stands.

* **Characters.** What is joined has the characters of the pieces and of what stands between them
  (`mem_of_mem_intercalate`), and the pieces that are found do not have the separator
  (`notMem_of_mem_splitOn`).
* **Uniqueness.** A text has one part before its first separator (`append_cons_inj`), and one list of pieces
  between commas and blanks (`eq_of_intercalate_comma`).
* **Lines** that end in line ends are found between them (`splitOn_lines`).
-/

namespace Scaffolder.Text

/-! ## Characters -/

/-- What stands in joined pieces stands in the separator or in a piece. -/
theorem mem_of_mem_intercalate {c : Char} {sep : List Char} {pieces : List (List Char)}
    (h : c ∈ sep.intercalate pieces) : c ∈ sep ∨ ∃ piece ∈ pieces, c ∈ piece := by
  induction pieces with
  | nil => cases h
  | cons piece pieces ih =>
    rcases pieces with _ | ⟨next, pieces⟩
    · rw [List.intercalate_singleton] at h
      exact .inr ⟨piece, List.mem_cons_self, h⟩
    · rw [List.intercalate_cons_cons, List.mem_append, List.mem_append] at h
      rcases h with (h | h) | h
      · exact .inr ⟨piece, List.mem_cons_self, h⟩
      · exact .inl h
      · rcases ih h with hsep | ⟨p, hp, hc⟩
        · exact .inl hsep
        · exact .inr ⟨p, List.mem_cons_of_mem _ hp, hc⟩

/-- No piece holds the separator. -/
theorem notMem_of_mem_splitOn {sep : Char} {cs piece : List Char} (h : piece ∈ cs.splitOn sep) :
    sep ∉ piece := by
  induction cs generalizing piece with
  | nil =>
    rw [List.splitOn_nil, List.mem_singleton] at h
    rw [h]
    exact List.not_mem_nil
  | cons c cs ih =>
    rw [List.splitOn_cons_eq_if_modifyHead] at h
    split_ifs at h with hc
    · rcases List.mem_cons.1 h with rfl | h
      · exact List.not_mem_nil
      · exact ih h
    · -- `c` goes to the front of the first piece
      obtain ⟨first, others, hsplit⟩ := List.exists_cons_of_ne_nil (List.splitOn_ne_nil sep cs)
      rw [hsplit] at h ih
      rcases List.mem_cons.1 h with rfl | h
      · have hne : sep ≠ c := fun heq => hc (beq_iff_eq.2 heq.symm)
        exact List.not_mem_cons_of_ne_of_not_mem hne (ih List.mem_cons_self)
      · exact ih (List.mem_cons_of_mem _ h)

/-! ## Uniqueness -/

/-- What stands before the first separator, and what stands behind it, is told by the whole. -/
theorem append_cons_inj {sep : Char} {front front' back back' : List Char} (h : sep ∉ front)
    (h' : sep ∉ front') (heq : front ++ sep :: back = front' ++ sep :: back') :
    front = front' ∧ back = back' := by
  have hcut : cutAt sep (front ++ sep :: back) = some (front, back) := cutAt_eq_some_iff.2 ⟨rfl, h⟩
  rw [heq, cutAt_eq_some_iff.2 ⟨rfl, h'⟩] at hcut
  exact Prod.mk.inj (Option.some.inj hcut.symm)

/-- Pieces with commas and blanks between them are found again between the commas, with the blanks in front
of them. -/
theorem splitOn_intercalate_comma {piece : List Char} {pieces : List (List Char)}
    (hpiece : ',' ∉ piece) (hpieces : ∀ p ∈ pieces, ',' ∉ p) :
    ([',', ' '].intercalate (piece :: pieces)).splitOn ',' = piece :: pieces.map (' ' :: ·) := by
  induction pieces generalizing piece with
  | nil => rw [List.intercalate_singleton, List.splitOn_eq_singleton hpiece, List.map_nil]
  | cons next pieces ih =>
    obtain ⟨hnext, hrest⟩ := List.forall_mem_cons.1 hpieces
    have hblank : ',' ∉ ' ' :: next := by simpa using hnext
    rw [List.intercalate_cons_cons, List.append_assoc, List.cons_append, List.singleton_append,
      List.splitOn_append_cons_self_of_not_mem hpiece, ← List.intercalate_cons_cons_left, ih hblank hrest,
      List.map_cons]

/-- **Pieces without commas are told by the whole** in which commas and blanks stand between them. -/
theorem eq_of_intercalate_comma {pieces pieces' : List (List Char)} (nonempty : pieces ≠ [])
    (nonempty' : pieces' ≠ []) (h : ∀ p ∈ pieces, ',' ∉ p) (h' : ∀ p ∈ pieces', ',' ∉ p)
    (heq : [',', ' '].intercalate pieces = [',', ' '].intercalate pieces') : pieces = pieces' := by
  obtain ⟨piece, pieces, rfl⟩ := List.exists_cons_of_ne_nil nonempty
  obtain ⟨piece', pieces', rfl⟩ := List.exists_cons_of_ne_nil nonempty'
  obtain ⟨hpiece, hpieces⟩ := List.forall_mem_cons.1 h
  obtain ⟨hpiece', hpieces'⟩ := List.forall_mem_cons.1 h'
  have hsplit := congrArg (List.splitOn ',') heq
  rw [splitOn_intercalate_comma hpiece hpieces, splitOn_intercalate_comma hpiece' hpieces'] at hsplit
  obtain ⟨hfirst, hrest⟩ := List.cons.inj hsplit
  rw [hfirst, List.map_injective_iff.2 List.cons_injective hrest]

/-! ## Lines -/

/-- **Lines that end in line ends** are found again between these, with nothing behind the last. -/
theorem splitOn_lines {ls : List (List Char)} (h : ∀ l ∈ ls, '\n' ∉ l) :
    (ls.flatMap fun l => l ++ ['\n']).splitOn '\n' = ls ++ [[]] := by
  induction ls with
  | nil => rfl
  | cons l ls ih =>
    obtain ⟨hl, hls⟩ := List.forall_mem_cons.1 h
    rw [List.flatMap_cons, List.append_assoc, List.singleton_append,
      List.splitOn_append_cons_self_of_not_mem hl, ih hls, List.cons_append]

end Scaffolder.Text
