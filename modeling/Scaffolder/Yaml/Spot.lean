/-!
# Places in a text

A text as a list of its characters with the line and column of each. Every kind of line break
counts as one break: `CR`, `LF`, `CR LF` and `NEL` become a line feed, the two Unicode separators
stay what they are. After the last character comes one more spot, whose character is `NUL`; no
text in this format holds that character, so it marks the end.

- `spots?` refuses texts with characters that the format does not allow.
- `atMark` tells whether a line starts with one of the two document marks.
-/

namespace Scaffolder.Yaml

/-- A character and where it stands. -/
structure Spot where
  /-- The character. -/
  char : Char
  /-- How many line breaks come before it. -/
  line : Nat
  /-- How many characters of its line come before it. -/
  column : Nat
  /-- How many bytes come before it. -/
  index : Nat
  deriving Repr

/-- The character that marks the end of the text. -/
def endChar : Char := '\x00'

/-- The byte order mark. -/
def byteOrderMark : Char := '\uFEFF'

/-- Whether a character may stand in a text of this format. -/
def isAllowed (c : Char) : Bool :=
  let n := c.toNat
  n == 0x09 || n == 0x0A || n == 0x0D || (0x20 ≤ n && n ≤ 0x7E) || n == 0x85
    || (0xA0 ≤ n && n ≤ 0xD7FF) || (0xE000 ≤ n && n ≤ 0xFFFD) || 0x10000 ≤ n

/-- Whether a character is a space or a tab. -/
def isSpace (c : Char) : Bool := c == ' ' || c == '\t'

/-- Whether a character of a list of spots breaks a line. -/
def isBreak (c : Char) : Bool := c == '\n' || c == '\u2028' || c == '\u2029'

/-- Whether a character ends words: a space, a tab, a line break or the end of the text. -/
def isGap (c : Char) : Bool := isSpace c || isBreak c || c == endChar

/-- Whether a character may stand in the name of an anchor or of a tag handle. -/
def isNameChar (c : Char) : Bool := c.isAlphanum || c == '_' || c == '-'

/-- The spots of a text, from a given place on. -/
def spotsFrom (line column index : Nat) : List Char → List Spot
  | [] => [⟨endChar, line, column, index⟩]
  | '\r' :: '\n' :: cs => ⟨'\n', line, column, index⟩ :: spotsFrom (line + 1) 0 (index + 2) cs
  | c :: cs =>
      let next := index + c.utf8Size
      if c = '\r' ∨ c = '\n' ∨ c = '\u0085' then
        ⟨'\n', line, column, index⟩ :: spotsFrom (line + 1) 0 next cs
      else if isBreak c then ⟨c, line, column, index⟩ :: spotsFrom (line + 1) 0 next cs
      else ⟨c, line, column, index⟩ :: spotsFrom line (column + 1) next cs

/-- The spots of a text, if all its characters are allowed. -/
def spots? (cs : List Char) : Option (List Spot) :=
  if cs.all isAllowed then some (spotsFrom 0 0 0 cs) else none

/-- The character that lies some characters ahead. -/
def ahead (n : Nat) (spots : List Spot) : Char :=
  match spots[n]? with
  | some s => s.char
  | none => endChar

/-- Whether the line starts with a mark: three times the same character, then a gap. -/
def startsWithMark (c : Char) (spots : List Spot) : Bool :=
  (spots.head?.any fun s => s.column == 0) && ahead 0 spots == c && ahead 1 spots == c
    && ahead 2 spots == c && isGap (ahead 3 spots)

/-- Whether a document starts or ends here. -/
def atMark (spots : List Spot) : Bool :=
  startsWithMark '-' spots || startsWithMark '.' spots

/-- The characters up to the first that a test refuses, and the spots from there on. -/
def spanChars (p : Char → Bool) (spots : List Spot) : List Char × List Spot :=
  ((spots.takeWhile fun s => p s.char).map Spot.char, spots.dropWhile fun s => p s.char)

/-- The spots after some spaces and tabs. -/
def dropSpaces (spots : List Spot) : List Spot :=
  spots.dropWhile fun s => isSpace s.char

/-- The spots after the rest of a line, which may hold spaces and a comment and nothing else. -/
def endOfLine? (spots : List Spot) : Option (List Spot) :=
  let spots := dropSpaces spots
  let spots :=
    if ahead 0 spots = '#' then
      spots.dropWhile fun s => !isBreak s.char && s.char != endChar
    else spots
  if isBreak (ahead 0 spots) then some spots.tail
  else if ahead 0 spots = endChar then some spots
  else none

end Scaffolder.Yaml
