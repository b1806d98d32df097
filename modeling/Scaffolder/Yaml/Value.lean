import Scaffolder.Yaml.Scalar.Writing

/-!
# Values and their written form

The values that this library writes: texts, truth values, lists and records. A record writes one
field a line, a list one item after another behind dashes; what belongs to a field is indented by
two columns, except the dashes of a list.

- `Value.render` writes a value as a whole text.
-/

namespace Scaffolder.Yaml

/-- A value. -/
inductive Value where
  /-- A text. -/
  | text (s : String)
  /-- A truth value. -/
  | truth (b : Bool)
  /-- Values one after another. -/
  | list (items : List Value)
  /-- Values under names, which are written as they are. -/
  | record (fields : List (String × Value))

namespace Value

/-- By how many columns the parts of a value are indented. -/
def indentStep : Nat := 2

/-- A line feed, unless a line starts anyway. -/
def freshLine (written : List Char) : List Char :=
  if written.getLast?.all breaksWritten then written else written ++ ['\n']

/-- That many spaces. -/
def spaces (n : Nat) : List Char := List.replicate n ' '

mutual

/-- A value as written behind the name of a field or behind a dash. `column` is the column of
that name or dash, and `dashed` holds behind a dash. -/
def write (column : Nat) (dashed : Bool) : Value → List Char
  | .text s => ' ' :: writeText (spaces (column + indentStep)) s.toList
  | .truth b => ' ' :: (if b then "true" else "false").toList
  | .list [] => " []".toList
  | .record [] => " \x7b\x7d".toList
  | .list (item :: items) =>
      if dashed then ' ' :: writeItems (column + indentStep) true (item :: items)
      else '\n' :: writeItems column false (item :: items)
  | .record (field :: fields) =>
      if dashed then ' ' :: writeFields (column + indentStep) true (field :: fields)
      else '\n' :: writeFields (column + indentStep) false (field :: fields)

/-- The items of a list. `inline` holds where the first one continues a line. -/
def writeItems (column : Nat) (inline : Bool) : List Value → List Char
  | [] => []
  | item :: items =>
      (if inline then [] else spaces column)
        ++ freshLine ('-' :: write column true item)
        ++ writeItems column false items

/-- The fields of a record. `inline` holds where the first one continues a line. -/
def writeFields (column : Nat) (inline : Bool) : List (String × Value) → List Char
  | [] => []
  | (name, value) :: fields =>
      (if inline then [] else spaces column)
        ++ freshLine (name.toList ++ ':' :: write column false value)
        ++ writeFields column false fields

end

/-- A value as a whole text. -/
def render : Value → String
  | .record (field :: fields) => String.ofList (writeFields 0 false (field :: fields))
  | .list (item :: items) => String.ofList (writeItems 0 false (item :: items))
  | value => String.ofList (freshLine (value.write 0 true).tail)

end Value

end Scaffolder.Yaml
