import Scaffolder.Yaml.Document
import Scaffolder.Yaml.Meaning

/-!
# Looking into documents

What a reader asks a document for: the text of a scalar, a truth value, the items of a list, the
fields of a record. Wherever an alias stands, the node that it stands for is looked at instead.

A short document can have its readers follow very many aliases. They are therefore counted: a
reader may follow a hundred for every part of the document, and is refused the next one.

- `Access` is a reading that may be refused and uses up an allowance of aliases.
- `Node.parts` counts the parts of a node, `Document.allowance` is what they allow.
- `Document.text`, `truth`, `items` and `fields` are the readings, each of one node.
-/

namespace Scaffolder.Yaml

/-- A reading of a document. The number is how many more aliases may be followed. -/
abbrev Access (α : Type) := StateT Nat Option α

/-! ## The allowance -/

mutual

/-- How many parts a node has: a scalar and an alias are one each, a list and a mapping have a
start, an end and the parts of what is in them. -/
def Node.parts : Node → Nat
  | .scalar _ _ _ => 1
  | .alias _ => 1
  | .list _ items => partsOfItems items + 2
  | .record _ entries => partsOfEntries entries + 2

/-- How many parts the items of a list have. -/
def partsOfItems : List Node → Nat
  | [] => 0
  | item :: items => item.parts + partsOfItems items

/-- How many parts the entries of a mapping have. -/
def partsOfEntries : List (Node × Node) → Nat
  | [] => 0
  | (key, value) :: entries => key.parts + value.parts + partsOfEntries entries

end

namespace Document

/-- How many aliases a reader of a document may follow. -/
def allowance (d : Document) : Nat := 100 * (d.root.map Node.parts).getD 0

/-- The node that a node stands for: an alias stands for an anchored node, all others for
themselves. -/
def follow (d : Document) : Node → Access Node
  | .alias number => do
      match ← get with
      | 0 => failure
      | left + 1 =>
          set left
          pure ((d.anchored.lookup number).getD .blank)
  | node => pure node

/-! ## Readings -/

/-- The text of a scalar, however it is written. -/
def text (d : Document) (node : Node) : Access String := do
  match ← d.follow node with
  | .scalar _ _ text => pure (String.ofList text)
  | _ => failure

/-- Whether a node is a scalar of which nothing is written. It stands for an empty list and for a
record without fields. -/
def isBlank : Node → Bool
  | .scalar _ .plain [] => true
  | _ => false

/-- The items of a list. -/
def items (d : Document) (node : Node) : Access (List Node) := do
  match ← d.follow node with
  | .list _ items => pure items
  | node => if isBlank node then pure [] else failure

/-- The fields of a record, each with its name. -/
def fields (d : Document) (node : Node) : Access (List (String × Node)) := do
  match ← d.follow node with
  | .record _ entries =>
      entries.mapM fun (key, value) => do
        let name ← d.text key
        pure (name, value)
  | node => if isBlank node then pure [] else failure

/-- The truth value of a scalar without quotes, or of lines that are tagged as one. -/
def truth (d : Document) (node : Node) : Access Bool := do
  match ← d.follow node with
  | .scalar tag style text =>
      if style = .plain ∨ (style = .literal ∧ tag = some (standardTag "bool")) then
        Meaning.truth? text
      else failure
  | _ => failure

end Document

end Scaffolder.Yaml
