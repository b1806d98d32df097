import Mathlib.Data.List.Basic
import Scaffolder.Text.Digits

/-!
# Numbers and their digits

A number is written in decimal digits, and a run of decimal digits is read as a number.

* **What is written** is a run of digits (`isDigits_toDigits`) that is read as the number it was written
  for (`digitsValue_toDigits`), and starts with a zero for no number but zero (`head?_toDigits`).
* **What is read** is what is written for its number, unless it starts with a zero
  (`toDigits_digitsValue`). So without leading zeros a number has one run of digits.
-/

namespace Scaffolder.Text

/-- A run of digits holds at least one, and nothing else. -/
theorem isDigits_iff {cs : List Char} :
    isDigits cs = true ↔ cs ≠ [] ∧ ∀ c ∈ cs, c.isDigit = true := by
  unfold isDigits
  simp

/-- No digit is a hyphen. -/
theorem hyphen_notMem_of_isDigits {cs : List Char} (h : isDigits cs = true) : '-' ∉ cs := by
  intro hmem
  have hdigit : '-'.isDigit = true := (isDigits_iff.1 h).2 '-' hmem
  simp at hdigit

/-! ## What is written -/

/-- The digits of a number are digits. -/
theorem isDigits_toDigits (n : Nat) : isDigits (Nat.toDigits 10 n) = true := by
  apply isDigits_iff.2
  refine ⟨Nat.toDigits_ne_nil, ?_⟩
  intro c hc
  exact Nat.isDigit_of_mem_toDigits (by omega) (by omega) hc

/-- The digits of a number may stand in a name. -/
theorem isLowerOrDigit_of_mem_toDigits {n : Nat} {c : Char} (h : c ∈ Nat.toDigits 10 n) :
    isLowerOrDigit c = true :=
  Bool.or_eq_true_iff.2 (.inr ((isDigits_iff.1 (isDigits_toDigits n)).2 c h))

/-- **The digits of a number are read as that number.** -/
theorem digitsValue_toDigits (n : Nat) : digitsValue (Nat.toDigits 10 n) = n :=
  Nat.ofDigitChars_ten_toDigits

/-- A positive number is written without a leading zero. -/
theorem head?_toDigits {n : Nat} (h : 0 < n) : (Nat.toDigits 10 n).head? ≠ some '0' := by
  have one : ∀ n < 10, 0 < n → [Nat.digitChar n].head? ≠ some '0' := by decide
  induction n using Nat.strongRecOn with
  | ind n ih =>
    rw [Nat.toDigits_eq_if (by decide)]
    split
    · next hlt => exact one n hlt h
    · next hge =>
      rw [List.head?_append_of_ne_nil _ Nat.toDigits_ne_nil]
      exact ih (n / 10) (by omega) (by omega)

/-! ## What is read -/

/-- A digit stands for less than ten. -/
theorem sub_zero_lt_ten {c : Char} (h : c.isDigit = true) : c.toNat - '0'.toNat < 10 := by
  have high : c.toNat ≤ '0'.toNat + 9 := (Char.isDigit_iff_toNat.1 h).2
  omega

/-- A digit is the one digit of its value. -/
theorem toDigits_of_isDigit {c : Char} (h : c.isDigit = true) :
    Nat.toDigits 10 (c.toNat - '0'.toNat) = [c] := by
  have hlt := sub_zero_lt_ten h
  have low : '0'.toNat ≤ c.toNat := (Char.isDigit_iff_toNat.1 h).1
  have hzero : '0'.toNat = 48 := rfl
  rw [Nat.toDigits_of_lt_base hlt, List.singleton_inj]
  apply Char.toNat_inj.1
  rw [Nat.toNat_digitChar_of_lt_ten hlt]
  omega

/-- Digits behind a positive number are written behind it. -/
theorem toDigits_append {cs : List Char} (digits : ∀ c ∈ cs, c.isDigit = true) {n : Nat} (h : 0 < n) :
    Nat.toDigits 10 n ++ cs = Nat.toDigits 10 (Nat.ofDigitChars 10 cs n) := by
  induction cs generalizing n with
  | nil => rw [Nat.ofDigitChars_nil, List.append_nil]
  | cons c cs ih =>
    have hc := digits c List.mem_cons_self
    have hcs : ∀ d ∈ cs, d.isDigit = true := fun d hd => digits d (List.mem_cons_of_mem c hd)
    calc Nat.toDigits 10 n ++ c :: cs
        = (Nat.toDigits 10 n ++ Nat.toDigits 10 (c.toNat - '0'.toNat)) ++ cs := by
          rw [toDigits_of_isDigit hc, List.append_assoc, List.singleton_append]
      _ = Nat.toDigits 10 (10 * n + (c.toNat - '0'.toNat)) ++ cs := by
          rw [Nat.toDigits_append_toDigits (by decide) h (sub_zero_lt_ten hc)]
      _ = Nat.toDigits 10 (Nat.ofDigitChars 10 (c :: cs) n) := by
          rw [ih hcs (by omega), Nat.ofDigitChars_cons]

/-- **A run of digits without a leading zero** is how its number is written. -/
theorem toDigits_digitsValue {digits : List Char} (h : isDigits digits = true)
    (unpadded : digits.head? ≠ some '0') : Nat.toDigits 10 (digitsValue digits) = digits := by
  obtain ⟨hne, hall⟩ := isDigits_iff.1 h
  obtain ⟨c, cs, rfl⟩ := List.exists_cons_of_ne_nil hne
  have hc := hall c List.mem_cons_self
  have hcs : ∀ d ∈ cs, d.isDigit = true := fun d hd => hall d (List.mem_cons_of_mem c hd)
  have hpos : 0 < c.toNat - '0'.toNat := by
    rcases Nat.eq_zero_or_pos (c.toNat - '0'.toNat) with hzero | hpos
    · have hdigits := toDigits_of_isDigit hc
      rw [hzero, Nat.toDigits_zero] at hdigits
      exact absurd (congrArg List.head? hdigits).symm unpadded
    · exact hpos
  unfold digitsValue
  rw [Nat.ofDigitChars_cons, Nat.mul_zero, Nat.zero_add, ← toDigits_append hcs hpos,
    toDigits_of_isDigit hc, List.singleton_append]

end Scaffolder.Text
