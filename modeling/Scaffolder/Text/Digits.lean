/-!
# Decimal digits

Runs of ASCII decimal digits and the number each stands for. Leading zeros are digits like any
other; whether they are welcome is for the reader of the run to say.
-/

namespace Scaffolder.Text

/-- Whether a text is a non-empty run of ASCII decimal digits. -/
def isDigits (cs : List Char) : Bool :=
  !cs.isEmpty && cs.all Char.isDigit

/-- The number that a run of decimal digits stands for. -/
def digitsValue (cs : List Char) : Nat :=
  Nat.ofDigitChars 10 cs 0

/-- Whether a character is an ASCII lower-case letter or an ASCII digit. -/
def isLowerOrDigit (c : Char) : Bool :=
  c.isLower || c.isDigit

/-- The numbers of lower-case letters. -/
theorem toNat_of_isLower {c : Char} (h : c.isLower = true) : 97 ≤ c.toNat ∧ c.toNat ≤ 122 := by
  obtain ⟨hlow, hhigh⟩ := Bool.and_eq_true_iff.1 h
  exact ⟨of_decide_eq_true hlow, of_decide_eq_true hhigh⟩

/-- Lower-case letters and digits are printed ASCII characters, and come after the slash. -/
theorem toNat_of_isLowerOrDigit {c : Char} (h : isLowerOrDigit c = true) :
    48 ≤ c.toNat ∧ c.toNat ≤ 122 := by
  rcases Bool.or_eq_true_iff.1 h with lower | digit
  · obtain ⟨hlow, hhigh⟩ := toNat_of_isLower lower
    exact ⟨Nat.le_trans (by decide) hlow, hhigh⟩
  · obtain ⟨hlow, hhigh⟩ := Char.isDigit_iff_toNat.1 digit
    exact ⟨hlow, Nat.le_trans hhigh (by decide)⟩

end Scaffolder.Text
