/-!
# Folding of lines

What stands between two words of a scalar, and what it contributes to the scalar's text. Spaces
on one line are kept. Where the line breaks, the spaces around the break are dropped: a single
break becomes a space, and of several breaks all but the first are kept.
-/

namespace Scaffolder.Yaml

/-- What stands between two words. -/
inductive Between where
  /-- Spaces and tabs on one line, from the last. -/
  | spaces (cs : List Char)
  /-- Line breaks: the first one, unless it was escaped, and those after it from the last. -/
  | breaks (first : Option Char) (more : List Char)

namespace Between

/-- Whether the line breaks. -/
def breaksLine : Between → Bool
  | .spaces _ => false
  | .breaks _ _ => true

/-- A further space or tab. -/
def addSpace (c : Char) : Between → Between
  | .spaces cs => .spaces (c :: cs)
  | .breaks first more => .breaks first more

/-- A further line break. -/
def addBreak (c : Char) : Between → Between
  | .spaces _ => .breaks (some c) []
  | .breaks first more => .breaks first (c :: more)

/-- What is left of it in the text. -/
def fold : Between → List Char
  | .spaces cs => cs.reverse
  | .breaks (some '\n') [] => [' ']
  | .breaks (some '\n') more => more.reverse
  | .breaks first more => first.toList ++ more.reverse

end Between

end Scaffolder.Yaml
