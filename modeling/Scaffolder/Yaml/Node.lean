import Scaffolder.Yaml.Tag
import Scaffolder.Yaml.Token

/-!
# Nodes

What a document is made of: scalars, lists and mappings, and aliases of nodes that carry an
anchor.
-/

namespace Scaffolder.Yaml

/-- A node. -/
inductive Node where
  /-- A scalar. -/
  | scalar (tag : Option TagText) (style : ScalarStyle) (text : List Char)
  /-- A list. -/
  | list (tag : Option TagText) (items : List Node)
  /-- A mapping, in the order in which it is written. -/
  | record (tag : Option TagText) (entries : List (Node × Node))
  /-- An alias of an anchored node. -/
  | alias (number : Nat)

/-- A scalar of which nothing is written. -/
def Node.blank : Node := .scalar none .plain []

end Scaffolder.Yaml
