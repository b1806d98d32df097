/-!
# Cutting a text at a character

`cutAt c` splits a text at the first occurrence of `c`, which belongs to neither part. The
lemmas say that it fails exactly on the texts without `c`, and that a successful cut gives the
text back with `c` between the parts and no `c` in the first one.
-/

namespace Scaffolder.Text

/-- The parts before and after the first occurrence of a character. -/
def cutAt (sep : Char) : List Char → Option (List Char × List Char)
  | [] => none
  | c :: cs =>
      if c = sep then some ([], cs)
      else (cutAt sep cs).map fun parts => (c :: parts.1, parts.2)

/-- A text is not cut exactly when it does not hold the character. -/
theorem cutAt_eq_none_iff {sep : Char} {cs : List Char} : cutAt sep cs = none ↔ sep ∉ cs := by
  induction cs with
  | nil => simp [cutAt]
  | cons c cs ih =>
    by_cases h : c = sep
    · simp [cutAt, h]
    · simp [cutAt, h, ih, Ne.symm h]

/-- **A cut loses only the character it is made at**, and makes the first part as short as
possible. -/
theorem cutAt_eq_some_iff {sep : Char} {cs front back : List Char} :
    cutAt sep cs = some (front, back) ↔ cs = front ++ sep :: back ∧ sep ∉ front := by
  induction cs generalizing front with
  | nil => simp [cutAt]
  | cons c cs ih =>
    by_cases h : c = sep
    · subst h
      cases front with
      | nil => simp [cutAt]
      | cons d front => simp [cutAt]; intro h1 _ h2; exact absurd h1 h2
    · cases front with
      | nil => simp [cutAt, h]
      | cons d front =>
        have hne : sep ≠ c := fun e => h e.symm
        simp only [cutAt, h, ↓reduceIte, Option.map_eq_some_iff, Prod.mk.injEq, Prod.exists,
          List.cons.injEq, List.cons_append, List.mem_cons, not_or]
        constructor
        · rintro ⟨f, b, hcut, ⟨hd, hf⟩, hb⟩
          subst hd hf hb
          obtain ⟨h1, h2⟩ := ih.1 hcut
          exact ⟨⟨rfl, h1⟩, hne, h2⟩
        · rintro ⟨⟨hd, hcs⟩, _, hf⟩
          exact ⟨front, back, ih.2 ⟨hcs, hf⟩, ⟨hd, rfl⟩, rfl⟩

end Scaffolder.Text
