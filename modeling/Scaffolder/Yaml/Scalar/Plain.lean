import Scaffolder.Yaml.Spot
import Scaffolder.Yaml.Scalar.Fold

/-!
# Plain scalars

Scalars without quotes. One ends at a colon before a gap, at a comment, at a document mark, at
a line that is not indented enough, and between brackets also at a comma or a bracket.
-/

namespace Scaffolder.Yaml

/-- A plain scalar that was read. -/
structure PlainScalar where
  /-- Its text. -/
  text : List Char
  /-- Whether the line breaks after it. -/
  endsLine : Bool
  /-- What follows it. -/
  rest : List Spot

/-- Whether a character between brackets ends a plain scalar. -/
def isFlowMark (c : Char) : Bool :=
  c == ',' || c == '[' || c == ']' || c == '\x7b' || c == '\x7d'

/-- Whether a plain scalar ends before a character that is no space and no break. `afterGap` holds
behind a space or a break, `margin` is the least column of a further line. -/
def endsPlain (inFlow afterGap : Bool) (margin : Nat) (s : Spot) (rest : List Spot) : Bool :=
  s.char == endChar || atMark (s :: rest) || (s.char == ':' && isGap (ahead 0 rest))
    || (afterGap && (s.char == '#' || (!inFlow && s.column < margin)))
    || (inFlow && isFlowMark s.char)

/-- Reads on in a plain scalar. `acc` is the text so far from its end, and `gap` is what stands
between the last word and here, if there is anything. -/
def plainFrom (inFlow : Bool) (margin : Nat) (acc : List Char) :
    Option Between → List Spot → Option PlainScalar
  | _, [] => none
  | gap, s :: rest =>
      if isSpace s.char then
        if s.char = '\t' && s.column < margin && gap.any Between.breaksLine then none
        else plainFrom inFlow margin acc (some ((gap.getD (.spaces [])).addSpace s.char)) rest
      else if isBreak s.char then
        plainFrom inFlow margin acc (some ((gap.getD (.spaces [])).addBreak s.char)) rest
      else if inFlow && s.char = ':' && (isFlowMark (ahead 0 rest) || ahead 0 rest = '?') then none
      else if endsPlain inFlow gap.isSome margin s rest then
        some ⟨acc.reverse, gap.any Between.breaksLine, s :: rest⟩
      else
        let before := ((gap.map Between.fold).getD []).reverse ++ acc
        plainFrom inFlow margin (s.char :: before) none rest

/-- The plain scalar that starts here. -/
def plain? (inFlow : Bool) (margin : Nat) (spots : List Spot) : Option PlainScalar :=
  plainFrom inFlow margin [] none spots

end Scaffolder.Yaml
