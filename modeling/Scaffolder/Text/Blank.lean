import Scaffolder.Text.Ranges

/-!
# Blank characters and trimming

The characters that count as white space, and the removal of them from both ends of a text.

- `isBlank` is the Unicode property `White_Space`: twenty-five characters, of which six are ASCII.
- `trim` cuts the blanks off both ends and keeps those inside.

The small statements at the end say what is left: a trimmed text neither starts nor ends with a
blank.
-/

namespace Scaffolder.Text

/-- The ranges of the Unicode property `White_Space`. -/
def blankRanges : List (Nat × Nat) :=
  [(0x09, 0x0D), (0x20, 0x20), (0x85, 0x85), (0xA0, 0xA0), (0x1680, 0x1680), (0x2000, 0x200A),
    (0x2028, 0x2029), (0x202F, 0x202F), (0x205F, 0x205F), (0x3000, 0x3000)]

/-- Whether a character is white space. -/
def isBlank (c : Char) : Bool := inRanges blankRanges c

/-- The characters without the blanks at the end. -/
def dropBlankEnd (cs : List Char) : List Char :=
  (cs.reverse.dropWhile isBlank).reverse

/-- The characters without the blanks at either end. -/
def trimChars (cs : List Char) : List Char :=
  dropBlankEnd (cs.dropWhile isBlank)

/-- A text without the blanks at either end. -/
def trim (s : String) : String :=
  String.ofList (trimChars s.toList)

/-- To trim a text is to trim its characters. -/
@[simp] theorem toList_trim (s : String) : (trim s).toList = trimChars s.toList := by
  simp [trim]

/-- Only the end is cut off. -/
theorem dropBlankEnd_prefix (cs : List Char) : dropBlankEnd cs <+: cs := by
  have h := List.reverse_prefix.2 (List.dropWhile_suffix isBlank (l := cs.reverse))
  simpa [dropBlankEnd] using h

/-- **Nothing blank is left at the start.** -/
theorem isBlank_head?_trimChars (cs : List Char) :
    ∀ c ∈ (trimChars cs).head?, isBlank c = false := by
  intro c hc
  obtain ⟨ending, hcs⟩ := dropBlankEnd_prefix (cs.dropWhile isBlank)
  have kept : (dropBlankEnd (cs.dropWhile isBlank)).head? = some c := hc
  have h : (cs.dropWhile isBlank).head? = some c := by
    rw [← hcs, List.head?_append, kept]
    rfl
  have := List.head?_dropWhile_not isBlank cs
  rw [h] at this
  simpa using this

/-- **Nothing blank is left at the end.** -/
theorem isBlank_getLast?_dropBlankEnd (cs : List Char) :
    ∀ c ∈ (dropBlankEnd cs).getLast?, isBlank c = false := by
  intro c hc
  have h : (cs.reverse.dropWhile isBlank).head? = some c := by
    simpa [dropBlankEnd] using hc
  have := List.head?_dropWhile_not isBlank cs.reverse
  rw [h] at this
  simpa using this

end Scaffolder.Text
