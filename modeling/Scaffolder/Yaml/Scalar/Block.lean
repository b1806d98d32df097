import Scaffolder.Yaml.Spot

/-!
# Block scalars

Scalars written as indented lines below a header. The header says whether lines are kept or
folded, what becomes of the line breaks at the end, and it may give the indentation; without
that, the first line that is not blank gives it.
-/

namespace Scaffolder.Yaml

/-- What becomes of the line breaks at the end of a block scalar. -/
inductive Chomping where
  /-- All are dropped. -/
  | strip
  /-- The first is kept. -/
  | clip
  /-- All are kept. -/
  | keep
  deriving DecidableEq

/-- The header of a block scalar. -/
structure BlockHeader where
  /-- What becomes of the breaks at the end. -/
  chomping : Chomping
  /-- By how many columns the lines are indented, if it says so. -/
  indentation : Option Nat

/-- The chomping that a character asks for. -/
def chomping? (c : Char) : Option Chomping :=
  if c = '+' then some .keep else if c = '-' then some .strip else none

/-- The number that a digit asks for. -/
def indentation? (c : Char) : Option Nat :=
  if c.isDigit then some (c.toNat - '0'.toNat) else none

/-- The header that follows the character of a block scalar. -/
def blockHeader (spots : List Spot) : BlockHeader × List Spot :=
  match chomping? (ahead 0 spots), indentation? (ahead 0 spots) with
  | some chomping, _ =>
      match indentation? (ahead 1 spots) with
      | some n => (⟨chomping, some n⟩, spots.drop 2)
      | none => (⟨chomping, none⟩, spots.drop 1)
  | none, some n =>
      match chomping? (ahead 1 spots) with
      | some chomping => (⟨chomping, some n⟩, spots.drop 2)
      | none => (⟨.clip, some n⟩, spots.drop 1)
  | none, none => (⟨.clip, none⟩, spots)

/-- The blank lines at the start of a block scalar. `indent` is the indentation, zero where it is
not yet known, and `deepest` the greatest column so far. Gives back the breaks from the last, the
greatest column and what follows; a tab where a space is due is refused. -/
def leadingBreaks (indent : Nat) :
    Nat → List Char → List Spot → Option (List Char × Nat × List Spot)
  | _, _, [] => none
  | deepest, breaks, s :: rest =>
      let shallow := indent = 0 ∨ s.column < indent
      if s.char = ' ' ∧ shallow then leadingBreaks indent deepest breaks rest
      else
        let deepest := max deepest s.column
        if s.char = '\t' ∧ shallow then none
        else if isBreak s.char then leadingBreaks indent deepest (s.char :: breaks) rest
        else some (breaks, deepest, s :: rest)

/-- What is read of a block scalar. -/
structure BlockText where
  /-- The text so far, from its end. -/
  text : List Char := []
  /-- The break after the last line, if there is one. -/
  lead : List Char := []
  /-- The breaks of the blank lines after it, from the last. -/
  trail : List Char
  /-- Whether the last line starts with a space or a tab. -/
  spaced : Bool := false

namespace BlockText

/-- The text once a further line starts with this character. A break between two folded lines
that do not start with a space becomes a space, or nothing where blank lines follow it. -/
def startLine (folded : Bool) (c : Char) (b : BlockText) : BlockText :=
  let lead :=
    if folded && b.lead = ['\n'] && !b.spaced && !isSpace c then
      if b.trail.isEmpty then [' '] else []
    else b.lead
  ⟨b.trail ++ lead ++ b.text, [], [], isSpace c⟩

/-- The text with the breaks at its end that are kept. -/
def finish (chomping : Chomping) (b : BlockText) : List Char :=
  let ending :=
    match chomping with
    | .strip => []
    | .clip => b.lead
    | .keep => b.lead ++ b.trail.reverse
  b.text.reverse ++ ending

end BlockText

/-- Reads the lines of a block scalar. `inLine` holds from the first character of a line to the
break after it. -/
def blockFrom (folded : Bool) (indent : Nat) (b : BlockText) :
    Bool → List Spot → Option (BlockText × List Spot)
  | _, [] => none
  | true, s :: rest =>
      if s.char = endChar then some (b, s :: rest)
      else if isBreak s.char then
        blockFrom folded indent { b with lead := [s.char], trail := [] } false rest
      else blockFrom folded indent { b with text := s.char :: b.text } true rest
  | false, s :: rest =>
      if s.char = ' ' ∧ s.column < indent then blockFrom folded indent b false rest
      else if s.char = '\t' ∧ s.column < indent then none
      else if isBreak s.char then
        blockFrom folded indent { b with trail := s.char :: b.trail } false rest
      else if s.char = endChar ∨ s.column ≠ indent then some (b, s :: rest)
      else
        let b := b.startLine folded s.char
        blockFrom folded indent { b with text := s.char :: b.text } true rest

/-- The block scalar whose first character stands just before. `margin` is the least column of
its lines. -/
def block? (folded : Bool) (margin : Nat) (spots : List Spot) :
    Option (List Char × List Spot) := do
  let (header, spots) := blockHeader spots
  if header.indentation = some 0 then failure
  let spots ← endOfLine? spots
  let given := header.indentation.map fun n => margin - 1 + n
  let (trail, deepest, spots) ← leadingBreaks (given.getD 0) 0 [] spots
  let indent := given.getD (max deepest (max margin 1))
  let (b, spots) ← blockFrom folded indent { trail } false spots
  pure (b.finish header.chomping, spots)

end Scaffolder.Yaml
