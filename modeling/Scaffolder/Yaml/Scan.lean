import Scaffolder.Yaml.Scalar.Block
import Scaffolder.Yaml.Scalar.Plain
import Scaffolder.Yaml.Scalar.Quoted
import Scaffolder.Yaml.Token

/-!
# From a text to tokens

A key needs no mark before it; that something was a key is known only at the colon behind it. The
scanner therefore remembers, for every level of brackets, where a key may have started
(`PossibleKey`), and puts the token for the key there once the colon comes. Such a key stays on
one line and within 1024 bytes.

- `Scan` is the state of the scanner, `Scan.next` reads one token.
- `tokens?` reads all of them.
-/

namespace Scaffolder.Yaml

/-- A place where a key may have started. -/
structure PossibleKey where
  /-- How many tokens come before it. -/
  place : Nat
  /-- Whether nothing else may start there. -/
  required : Bool
  /-- The line of its start. -/
  line : Nat
  /-- The column of its start. -/
  column : Nat
  /-- The index of its start. -/
  index : Nat

/-- The state of the scanner. -/
structure Scan where
  /-- What is not yet read. -/
  rest : List Spot
  /-- The tokens read, from the last. -/
  tokens : List Token := []
  /-- How many tokens are read. -/
  count : Nat := 0
  /-- Whether a key may start here. -/
  keyAllowed : Bool := true
  /-- The possible key of the innermost level. -/
  possible : Option PossibleKey := none
  /-- The possible keys of the levels around it; there is one for every open bracket. -/
  outer : List (Option PossibleKey) := []
  /-- The columns of the open lists and mappings of lines, from the innermost. -/
  indents : List Nat := []

namespace Scan

/-- Whether a bracket is open. -/
def inFlow (s : Scan) : Bool := !s.outer.isEmpty

/-- The least column of a line that belongs to the innermost list or mapping of lines. -/
def margin (s : Scan) : Nat :=
  match s.indents with
  | [] => 0
  | column :: _ => column + 1

/-- Where the scanner stands. -/
def here (s : Scan) : Spot := s.rest.headD ⟨endChar, 0, 0, 0⟩

/-- The state with one more token. -/
def push (t : Token) (s : Scan) : Scan :=
  { s with tokens := t :: s.tokens, count := s.count + 1 }

/-- The state with one more token, after that many characters. -/
def take (n : Nat) (t : Token) (s : Scan) : Scan :=
  { s.push t with rest := s.rest.drop n }

/-- The state with a token put before all but the first tokens. -/
def insertAt (place : Nat) (t : Token) (s : Scan) : Scan :=
  let after := s.count - place
  { s with tokens := s.tokens.take after ++ t :: s.tokens.drop after, count := s.count + 1 }

/-! ## Keys and indentation -/

/-- Gives up the possible key of the innermost level. -/
def dropKey? (s : Scan) : Option Scan :=
  if s.possible.any PossibleKey.required then none else some { s with possible := none }

/-- Remembers that a key may start here. -/
def markKey? (s : Scan) : Option Scan :=
  if s.keyAllowed then do
    let s ← s.dropKey?
    let here := s.here
    let required := !s.inFlow && s.indents.head? = some here.column
    pure { s with possible := some ⟨s.count, required, here.line, here.column, here.index⟩ }
  else some s

/-- Gives up a possible key that started on another line or too far back. -/
def freshKey? (here : Spot) : Option PossibleKey → Option (Option PossibleKey)
  | none => some none
  | some k =>
      if k.line < here.line ∨ k.index + 1024 < here.index then
        if k.required then none else some none
      else some (some k)

/-- Gives up all possible keys that started on another line or too far back. -/
def freshKeys? (s : Scan) : Option Scan := do
  let possible ← freshKey? s.here s.possible
  let outer ← s.outer.mapM (freshKey? s.here)
  pure { s with possible, outer }

/-- Opens a list or mapping of lines at a column, where none is open there. Its first token goes
before all but some tokens. -/
def openBlock (column place : Nat) (t : Token) (s : Scan) : Scan :=
  if s.inFlow || column < s.margin then s
  else { s.insertAt place t with indents := column :: s.indents }

/-- Closes the lists and mappings of lines whose column a test accepts. -/
def closeBlocks (p : Nat → Bool) (s : Scan) : Scan :=
  if s.inFlow then s
  else
    let closed := s.indents.takeWhile p
    { s with
      indents := s.indents.dropWhile p
      tokens := closed.map (fun _ => Token.blockEnd) ++ s.tokens
      count := s.count + closed.length }

/-! ## Blanks -/

/-- The spots after blanks and comments, and whether a key may start there. Outside brackets a
key may start on every new line, and a tab may not stand where a key may start. -/
def skipBlanks (inFlow : Bool) : (keyAllowed inComment : Bool) → List Spot → Bool × List Spot
  | allowed, _, [] => (allowed, [])
  | allowed, inComment, s :: rest =>
      if isBreak s.char then skipBlanks inFlow (allowed || !inFlow) false rest
      else if s.char = endChar then (allowed, s :: rest)
      else if inComment || s.char = '#' then skipBlanks inFlow allowed true rest
      else if s.char = ' ' || (s.char = '\t' && (inFlow || !allowed))
          || (s.char = byteOrderMark && s.column == 0) then
        skipBlanks inFlow allowed false rest
      else (allowed, s :: rest)

/-! ## Directives -/

/-- A number of at most nine digits. -/
def shortNumber? (spots : List Spot) : Option (Nat × List Spot) :=
  let (digits, rest) := spanChars Char.isDigit spots
  if digits.isEmpty || 9 < digits.length then none
  else some (Nat.ofDigitChars 10 digits 0, rest)

/-- The directive whose percent sign stands here. -/
def directive? (spots : List Spot) : Option (Token × List Spot) := do
  let (name, rest) := spanChars isNameChar spots.tail
  if !isGap (ahead 0 rest) then failure
  let rest := dropSpaces rest
  if name = "YAML".toList then
    let (major, rest) ← shortNumber? rest
    if ahead 0 rest ≠ '.' then failure
    let (minor, rest) ← shortNumber? rest.tail
    pure (.versionDirective major minor, ← endOfLine? rest)
  else if name = "TAG".toList then
    if ahead 0 rest ≠ '!' then failure
    let (name, closed, rest) := tagHandle rest
    if !closed && !name.isEmpty then failure
    if !isSpace (ahead 0 rest) then failure
    let (first, rest) ← someTagChars? true (dropSpaces rest)
    if !isGap (ahead 0 rest) then failure
    let handle := '!' :: name ++ (if closed then ['!'] else [])
    pure (.tagDirective (asciiBytes handle) first, ← endOfLine? rest)
  else failure

/-! ## One token -/

/-- Ends what is open before a directive, a document mark or the end of the text. -/
def endBlocks? (s : Scan) : Option Scan := do
  let s ← (s.closeBlocks fun _ => true).dropKey?
  pure { s with keyAllowed := false }

/-- An opening bracket. -/
def openBracket? (t : Token) (s : Scan) : Option Scan := do
  let s ← s.markKey?
  pure { s.take 1 t with outer := s.possible :: s.outer, possible := none, keyAllowed := true }

/-- A closing bracket. -/
def closeBracket? (t : Token) (s : Scan) : Option Scan := do
  let s ← s.dropKey?
  let s := { s.take 1 t with keyAllowed := false }
  match s.outer with
  | [] => pure s
  | possible :: outer => pure { s with possible, outer }

/-- A comma between brackets. -/
def flowEntry? (s : Scan) : Option Scan := do
  let s ← s.dropKey?
  pure { s.take 1 .flowEntry with keyAllowed := true }

/-- The dash of a list of lines. -/
def blockEntry? (s : Scan) : Option Scan := do
  if !s.inFlow && !s.keyAllowed then failure
  let s ← (s.openBlock s.here.column s.count .blockSequenceStart).dropKey?
  pure { s.take 1 .blockEntry with keyAllowed := true }

/-- The question mark before a key. -/
def key? (s : Scan) : Option Scan := do
  if !s.inFlow && !s.keyAllowed then failure
  let s ← (s.openBlock s.here.column s.count .blockMappingStart).dropKey?
  pure { s.take 1 .key with keyAllowed := !s.inFlow }

/-- The colon after a key. -/
def value? (s : Scan) : Option Scan :=
  match s.possible with
  | some k =>
      let s := (s.insertAt k.place .key).openBlock k.column k.place .blockMappingStart
      some { s.take 1 .value with possible := none, keyAllowed := false }
  | none =>
      if !s.inFlow && !s.keyAllowed then none
      else
        let s := s.openBlock s.here.column s.count .blockMappingStart
        some { s.take 1 .value with keyAllowed := !s.inFlow }

/-- The name behind the mark of an anchor or alias. -/
def nameToken? (t : List Char → Token) (s : Scan) : Option Scan := do
  let s ← s.markKey?
  let (name, rest) := spanChars isNameChar s.rest.tail
  let last := ahead 0 rest
  if name.isEmpty || !(isGap last || "?:,]\x7d%@`".toList.contains last) then failure
  pure { s.push (t name) with rest, keyAllowed := false }

/-- A tag. -/
def tagToken? (s : Scan) : Option Scan := do
  let s ← s.markKey?
  let (name, rest) ← tag? s.inFlow s.rest
  pure { s.push (.tag name) with rest, keyAllowed := false }

/-- A block scalar. -/
def blockToken? (folded : Bool) (s : Scan) : Option Scan := do
  let s ← s.dropKey?
  let (text, rest) ← block? folded s.margin s.rest.tail
  pure { s.push (.scalar (if folded then .folded else .literal) text) with
    rest, keyAllowed := true }

/-- A quoted scalar. -/
def quotedToken? (quotes : Quotes) (s : Scan) : Option Scan := do
  let s ← s.markKey?
  let (text, rest) ← quoted? quotes s.rest.tail
  pure { s.push (.scalar .quoted text) with rest, keyAllowed := false }

/-- A plain scalar. -/
def plainToken? (s : Scan) : Option Scan := do
  let s ← s.markKey?
  let scalar ← plain? s.inFlow s.margin s.rest
  pure { s.push (.scalar .plain scalar.text) with
    rest := scalar.rest, keyAllowed := scalar.endsLine }

/-- Whether a plain scalar starts with these two characters. -/
def startsPlain (inFlow : Bool) (c next : Char) : Bool :=
  !(isGap c || "-?:,[]\x7b\x7d#&*!|>'\"%@`".toList.contains c)
    || (c == '-' && !isSpace next)
    || (!inFlow && (c == '?' || c == ':') && !isGap next)

/-- Reads the token that starts here. -/
def token? (s : Scan) : Option Scan :=
  let c := s.here.char
  let next := ahead 1 s.rest
  if c = endChar then do
    let s ← s.endBlocks?
    pure (s.push .streamEnd)
  else if c = '%' && s.here.column == 0 then do
    let s ← s.endBlocks?
    let (t, rest) ← directive? s.rest
    pure { s.push t with rest }
  else if startsWithMark '-' s.rest then do
    let s ← s.endBlocks?
    pure (s.take 3 .documentStart)
  else if startsWithMark '.' s.rest then do
    let s ← s.endBlocks?
    pure (s.take 3 .documentEnd)
  else if c = '[' then s.openBracket? .flowSequenceStart
  else if c = '\x7b' then s.openBracket? .flowMappingStart
  else if c = ']' then s.closeBracket? .flowSequenceEnd
  else if c = '\x7d' then s.closeBracket? .flowMappingEnd
  else if c = ',' then s.flowEntry?
  else if c = '-' && isGap next then s.blockEntry?
  else if c = '?' && (s.inFlow || isGap next) then s.key?
  else if c = ':' && (s.inFlow || isGap next) then s.value?
  else if c = '*' then s.nameToken? .alias
  else if c = '&' then s.nameToken? .anchor
  else if c = '!' then s.tagToken?
  else if c = '|' && !s.inFlow then s.blockToken? false
  else if c = '>' && !s.inFlow then s.blockToken? true
  else if c = '\'' then s.quotedToken? .single
  else if c = '"' then s.quotedToken? .double
  else if startsPlain s.inFlow c next then s.plainToken?
  else none

/-- Reads one more token: blanks are skipped, possible keys that are too far back are given up,
and what is indented more than this line is closed. -/
def next (s : Scan) : Option Scan := do
  let (keyAllowed, rest) := skipBlanks s.inFlow s.keyAllowed false s.rest
  let s ← { s with keyAllowed, rest }.freshKeys?
  let column := s.here.column
  (s.closeBlocks fun indent => column < indent).token?

/-- Reads up to the end of the text, in at most that many tokens. -/
def toEnd : Nat → Scan → Option (List Token)
  | 0, _ => none
  | n + 1, s => do
      let s ← s.next
      if s.tokens.head? = some .streamEnd then pure s.tokens.reverse else toEnd n s

end Scan

/-- The tokens of a text. -/
def tokens? (cs : List Char) : Option (List Token) := do
  let spots ← spots? cs
  Scan.toEnd (spots.length + 1) { rest := spots }

end Scaffolder.Yaml
