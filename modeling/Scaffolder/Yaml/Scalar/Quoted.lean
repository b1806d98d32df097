import Scaffolder.Yaml.Spot
import Scaffolder.Yaml.Scalar.Fold

/-!
# Quoted scalars

Scalars between single quotes, where a quote inside is written twice, and between double quotes,
where a backslash starts an escape. Lines are folded in both; a backslash at the end of a line
joins it with the next without a space.
-/

namespace Scaffolder.Yaml

/-- The two kinds of quotes. -/
inductive Quotes where
  /-- Single quotes. -/
  | single
  /-- Double quotes. -/
  | double
  deriving DecidableEq

namespace Quotes

/-- The quote itself. -/
def char : Quotes → Char
  | .single => '\''
  | .double => '"'

end Quotes

/-- Where a reader stands inside a quoted scalar. -/
inductive QuotedPhase where
  /-- In a word. -/
  | word
  /-- Between two words. -/
  | between (gap : Between)
  /-- After a quote that may end the scalar or be the first of two. -/
  | quote
  /-- After a backslash. -/
  | escape
  /-- Before that many further hexadecimal digits of a number, of which this much is read. -/
  | number (digits value : Nat)

namespace QuotedPhase

/-- What the phase adds to the text once a word goes on. -/
def pending : QuotedPhase → List Char
  | .between gap => gap.fold
  | _ => []

/-- The phase as a gap. -/
def gap : QuotedPhase → Between
  | .between gap => gap
  | _ => .spaces []

end QuotedPhase

/-- The character that a one-letter escape stands for. -/
def escaped? (c : Char) : Option Char :=
  match c with
  | '0' => some '\x00'
  | 'a' => some '\x07'
  | 'b' => some '\x08'
  | 't' | '\t' => some '\t'
  | 'n' => some '\n'
  | 'v' => some '\x0b'
  | 'f' => some '\x0c'
  | 'r' => some '\r'
  | 'e' => some '\x1b'
  | ' ' => some ' '
  | '"' => some '"'
  | '/' => some '/'
  | '\\' => some '\\'
  | 'N' => some '\u0085'
  | '_' => some '\u00a0'
  | 'L' => some '\u2028'
  | 'P' => some '\u2029'
  | _ => none

/-- How many digits follow a letter that starts a numbered escape. -/
def escapeDigits? (c : Char) : Option Nat :=
  match c with
  | 'x' => some 2
  | 'u' => some 4
  | 'U' => some 8
  | _ => none

/-- The value of a hexadecimal digit. -/
def hexValue? (c : Char) : Option Nat :=
  if '0' ≤ c ∧ c ≤ '9' then some (c.toNat - '0'.toNat)
  else if 'a' ≤ c ∧ c ≤ 'f' then some (c.toNat - 'a'.toNat + 10)
  else if 'A' ≤ c ∧ c ≤ 'F' then some (c.toNat - 'A'.toNat + 10)
  else none

/-- The character of a number, if it has one. -/
def charOfNumber? (n : Nat) : Option Char :=
  if h : n.isValidChar then some (Char.ofNatAux n h) else none

/-- Reads on in a quoted scalar. `acc` is the text so far from its end. -/
def quotedFrom (quotes : Quotes) (acc : List Char) :
    QuotedPhase → List Spot → Option (List Char × List Spot)
  | _, [] => none
  | .quote, s :: rest =>
      if s.char = '\'' then quotedFrom quotes ('\'' :: acc) .word rest
      else some (acc.reverse, s :: rest)
  | .escape, s :: rest =>
      if isBreak s.char then quotedFrom quotes acc (.between (.breaks none [])) rest
      else
        match escapeDigits? s.char with
        | some digits => quotedFrom quotes acc (.number digits 0) rest
        | none =>
            match escaped? s.char with
            | some c => quotedFrom quotes (c :: acc) .word rest
            | none => none
  | .number digits value, s :: rest =>
      match hexValue? s.char with
      | none => none
      | some v =>
          if 1 < digits then quotedFrom quotes acc (.number (digits - 1) (value * 16 + v)) rest
          else
            match charOfNumber? (value * 16 + v) with
            | some c => quotedFrom quotes (c :: acc) .word rest
            | none => none
  | phase, s :: rest =>
      if s.char = endChar then none
      else if isSpace s.char then
        quotedFrom quotes acc (.between (phase.gap.addSpace s.char)) rest
      else if isBreak s.char then
        quotedFrom quotes acc (.between (phase.gap.addBreak s.char)) rest
      else if atMark (s :: rest) then none
      else
        let acc := phase.pending.reverse ++ acc
        if s.char = quotes.char then
          match quotes with
          | .single => quotedFrom quotes acc .quote rest
          | .double => some (acc.reverse, rest)
        else if quotes = .double ∧ s.char = '\\' then quotedFrom quotes acc .escape rest
        else quotedFrom quotes (s.char :: acc) .word rest

/-- The quoted scalar whose first quote stands just before. -/
def quoted? (quotes : Quotes) (spots : List Spot) : Option (List Char × List Spot) :=
  quotedFrom quotes [] .word spots

end Scaffolder.Yaml
