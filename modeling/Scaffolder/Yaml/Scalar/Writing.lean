import Scaffolder.Yaml.Spot
import Scaffolder.Yaml.Meaning

/-!
# How texts are written

A text is written without quotes where it can be, so that it reads back as the same text: not
where it would mean something else, not where a character in it would end it early. Else it is
written between single quotes, or as indented lines if it holds a line feed, or between double
quotes if it holds a character that needs an escape.
-/

namespace Scaffolder.Yaml

/-- Whether a character is written as it is. -/
def isPrintable (c : Char) : Bool :=
  let n := c.toNat
  n == 0x0A || (0x20 ≤ n && n ≤ 0x7E) || (0xA0 ≤ n && n ≤ 0xD7FF)
    || (0xE000 ≤ n && n ≤ 0xFFFD && n != 0xFEFF) || 0x10000 ≤ n

/-- Whether a character breaks a line of what is written. -/
def breaksWritten (c : Char) : Bool := isBreak c || c == '\r' || c == '\u0085'

/-- Whether a character of a written text ends words, or the text ends there. -/
def isWrittenGap (c : Option Char) : Bool :=
  c.all fun c => c == ' ' || c == '\t' || breaksWritten c || c == endChar

/-- Whether a test accepts two characters that follow each other. -/
def anyAdjacent (p : Char → Char → Bool) (cs : List Char) : Bool :=
  (cs.zip cs.tail).any fun (c, d) => p c d

/-- Whether the first character of a text would start something else than a plain scalar. -/
def startsMarked : List Char → Bool
  | [] => false
  | c :: rest =>
      "#,[]\x7b\x7d&*!|>'\"%@`".toList.contains c
        || ("?:-".toList.contains c && isWrittenGap rest.head?)

/-- Whether a text would end early, or start something else, as a plain scalar. -/
def isMarked (cs : List Char) : Bool :=
  cs.take 3 == ['-', '-', '-'] || cs.take 3 == ['.', '.', '.'] || startsMarked cs
    || cs.getLast? == some ':' || anyAdjacent (fun c d => c == ':' && isWrittenGap (some d)) cs
    || anyAdjacent (fun c d => isWrittenGap (some c) && d == '#') cs

/-- Whether the first or the last character of a text is a space. -/
def isPadded (cs : List Char) : Bool :=
  cs.head? == some ' ' || cs.getLast? == some ' '

/-- Whether a text has a character that only an escape can write, or a space before a break. -/
def needsEscape (cs : List Char) : Bool :=
  cs.any (fun c => !isPrintable c) || anyAdjacent (fun c d => c == ' ' && breaksWritten d) cs

/-- The ways to write a text. -/
inductive Writing where
  /-- Without quotes. -/
  | plain
  /-- Between single quotes. -/
  | single
  /-- Between double quotes. -/
  | double
  /-- As indented lines. -/
  | lines
  deriving DecidableEq, Repr

/-- How a text is written. -/
def Writing.of (cs : List Char) : Writing :=
  if cs.contains '\n' then
    if needsEscape cs || cs.getLast? = some ' ' then .double else .lines
  else if needsEscape cs || anyAdjacent (fun c d => breaksWritten c && d == ' ') cs then .double
  else if Meaning.ofPlain cs ≠ .text || Meaning.hasLeadingZero cs || isPadded cs
      || cs.any breaksWritten || isMarked cs then .single
  else .plain

/-- A number as that many hexadecimal digits. -/
def hexDigits (width n : Nat) : List Char :=
  let digits := (Nat.toDigits 16 n).map Char.toUpper
  List.replicate (width - digits.length) '0' ++ digits

/-- How a character is escaped. -/
def escapeChar (c : Char) : List Char :=
  let n := c.toNat
  '\\' ::
    if n = 0x00 then ['0']
    else if n = 0x07 then ['a']
    else if n = 0x08 then ['b']
    else if n = 0x09 then ['t']
    else if n = 0x0A then ['n']
    else if n = 0x0B then ['v']
    else if n = 0x0C then ['f']
    else if n = 0x0D then ['r']
    else if n = 0x1B then ['e']
    else if n = 0x22 then ['"']
    else if n = 0x5C then ['\\']
    else if n = 0x85 then ['N']
    else if n = 0xA0 then ['_']
    else if n = 0x2028 then ['L']
    else if n = 0x2029 then ['P']
    else if n ≤ 0xFF then 'x' :: hexDigits 2 n
    else if n ≤ 0xFFFF then 'u' :: hexDigits 4 n
    else 'U' :: hexDigits 8 n

/-- A text between double quotes. -/
def doubleQuoted (cs : List Char) : List Char :=
  let inside := cs.flatMap fun c =>
    if !isPrintable c || breaksWritten c || c == '"' || c == '\\' then escapeChar c else [c]
  '"' :: inside ++ ['"']

/-- The characters of a text, with the given padding at the start of every line that is not
blank and, if asked for, every single quote twice. `fresh` holds at the start of a line. -/
def padLines (padding : List Char) (doubling : Bool) : (fresh : Bool) → List Char → List Char
  | _, [] => []
  | fresh, c :: cs =>
      if breaksWritten c then c :: padLines padding doubling true cs
      else
        (if fresh then padding else []) ++ (if doubling && c == '\'' then ['\'', c] else [c])
          ++ padLines padding doubling false cs

/-- A text between single quotes, where a quote inside is written twice. -/
def singleQuoted (padding cs : List Char) : List Char :=
  let ending := if cs.getLast?.any breaksWritten then padding else []
  '\'' :: padLines padding true false cs ++ ending ++ ['\'']

/-- A text as indented lines. The header tells the indentation where the text starts with a
space or a break, and what becomes of the breaks at its end. -/
def asLines (padding cs : List Char) : List Char :=
  let hint := if cs.head?.any fun c => c == ' ' || breaksWritten c then ['2'] else []
  let chomp :=
    match cs.reverse with
    | [] => ['-']
    | c :: before =>
        if !breaksWritten c then ['-']
        else if before.head?.all breaksWritten then ['+']
        else []
  '|' :: hint ++ chomp ++ '\n' :: padLines padding false true cs

/-- A text as it is written; further lines of it start with the padding. -/
def writeText (padding cs : List Char) : List Char :=
  match Writing.of cs with
  | .plain => cs
  | .single => singleQuoted padding cs
  | .double => doubleQuoted cs
  | .lines => asLines padding cs

end Scaffolder.Yaml
