import Scaffolder.Yaml.Tag

/-!
# Tokens

The pieces that a text is cut into. Indentation becomes tokens too: a list or mapping of lines
starts with one and ends with `blockEnd`.
-/

namespace Scaffolder.Yaml

/-- How a scalar is written. -/
inductive ScalarStyle where
  /-- Without quotes. -/
  | plain
  /-- Between quotes of either kind. -/
  | quoted
  /-- As lines that are kept. -/
  | literal
  /-- As lines that are folded. -/
  | folded
  deriving DecidableEq, Repr

/-- A token. -/
inductive Token where
  /-- The end of the text. -/
  | streamEnd
  /-- A line that gives the version of the format. -/
  | versionDirective (major minor : Nat)
  /-- A line that says what a tag handle stands for. -/
  | tagDirective (handle first : TagText)
  /-- The mark at the start of a document. -/
  | documentStart
  /-- The mark at the end of a document. -/
  | documentEnd
  /-- The start of a list of lines. -/
  | blockSequenceStart
  /-- The start of a mapping of lines. -/
  | blockMappingStart
  /-- The end of a list or mapping of lines. -/
  | blockEnd
  /-- An opening square bracket. -/
  | flowSequenceStart
  /-- A closing square bracket. -/
  | flowSequenceEnd
  /-- An opening brace. -/
  | flowMappingStart
  /-- A closing brace. -/
  | flowMappingEnd
  /-- The dash before an item of a list of lines. -/
  | blockEntry
  /-- The comma between items and entries. -/
  | flowEntry
  /-- What comes before a key. -/
  | key
  /-- What comes before a value. -/
  | value
  /-- An alias. -/
  | alias (name : List Char)
  /-- An anchor. -/
  | anchor (name : List Char)
  /-- A tag. -/
  | tag (tag : TagName)
  /-- A scalar. -/
  | scalar (style : ScalarStyle) (text : List Char)
  deriving DecidableEq

end Scaffolder.Yaml
