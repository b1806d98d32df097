import Scaffolder.Text.Digits

/-!
# Plugin names

A plugin's name is a DNS-1123 subdomain: labels joined by dots, each of lower-case letters,
digits and hyphens with a letter or digit at both ends, of at most 63 bytes, and at most 253
bytes in all.

- `NameFault` lists what can be wrong, in the order in which it is looked for.
- `fault?` reports the first fault of a name: of the whole name, or else of the leftmost bad
  label.
-/

namespace Scaffolder

/-- What can be wrong with a plugin name. -/
inductive NameFault where
  /-- Nothing is written. -/
  | empty
  /-- The name has more than 253 bytes. -/
  | tooLong
  /-- Two dots meet, or a dot stands at an end. -/
  | emptyLabel
  /-- A label has more than 63 bytes. -/
  | labelTooLong
  /-- A label holds a character that no name may hold. -/
  | badCharacter
  /-- A label starts or ends with a hyphen. -/
  | hyphenAtEnd
  deriving DecidableEq, Repr

namespace NameFault

/-- The wording of a name fault. -/
def message : NameFault → String
  | .empty => "name is empty"
  | .tooLong => "name is longer than 253 characters"
  | .emptyLabel => "name contains an empty label"
  | .labelTooLong => "label is longer than 63 characters"
  | .badCharacter => "only lowercase alphanumerics, '-' and '.' are allowed"
  | .hyphenAtEnd => "labels must start and end with an alphanumeric"

end NameFault

namespace PluginName

/-- The most bytes a name may have. -/
def maxNameBytes : Nat := 253

/-- The most bytes a label may have. -/
def maxLabelBytes : Nat := 63

/-- The number of bytes of some characters in UTF-8. -/
def byteSize (cs : List Char) : Nat :=
  cs.foldr (fun c n => c.utf8Size + n) 0

/-- Whether a label may hold a character. -/
def isLabelChar (c : Char) : Bool :=
  Text.isLowerOrDigit c || c == '-'

/-- What is wrong with a label, if anything. -/
def labelFault? (label : List Char) : Option NameFault :=
  if label.isEmpty then some .emptyLabel
  else if maxLabelBytes < byteSize label then some .labelTooLong
  else if !label.all isLabelChar then some .badCharacter
  else if label.head? = some '-' ∨ label.getLast? = some '-' then some .hyphenAtEnd
  else none

/-- The labels of a name: the pieces between its dots. -/
def labels (cs : List Char) : List (List Char) :=
  cs.splitOn '.'

/-- What is wrong with a name, if anything. -/
def fault? (name : String) : Option NameFault :=
  let cs := name.toList
  if cs.isEmpty then some .empty
  else if maxNameBytes < byteSize cs then some .tooLong
  else (labels cs).findSome? labelFault?

end PluginName

end Scaffolder
