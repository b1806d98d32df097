import Scaffolder.Text.Hidden

/-!
# Quoted texts

How a text is shown inside a description of a value: between double quotes, with a backslash
before quotes and backslashes, short forms for four control characters, and `\u{…}` with the
number in hexadecimal for every other character that cannot be shown.

`showList` and `showRecord` put values side by side, on one line.
-/

namespace Scaffolder.Text

/-- How one character is written between quotes. -/
def quotedChar (c : Char) : List Char :=
  if c = '\x00' then ['\\', '0']
  else if c = '\t' then ['\\', 't']
  else if c = '\r' then ['\\', 'r']
  else if c = '\n' then ['\\', 'n']
  else if c = '"' then ['\\', '"']
  else if c = '\\' then ['\\', '\\']
  else if isHidden c then "\\u\x7b".toList ++ Nat.toDigits 16 c.toNat ++ ['}']
  else [c]

/-- A text between quotes. -/
def quoted (s : String) : String :=
  "\"" ++ String.ofList (s.toList.flatMap quotedChar) ++ "\""

/-- Shown values between brackets. -/
def showList (items : List String) : String :=
  "[" ++ String.intercalate ", " items ++ "]"

/-- Shown fields after a name. A record without fields is its name alone. -/
def showRecord (name : String) (fields : List (String × String)) : String :=
  if fields.isEmpty then name
  else
    name ++ " \x7b " ++ String.intercalate ", " (fields.map fun f => f.1 ++ ": " ++ f.2) ++ " \x7d"

/-- A shown value that may be missing. -/
def showOption : Option String → String
  | none => "None"
  | some s => "Some(" ++ s ++ ")"

/-- A shown truth value. -/
def showBool (b : Bool) : String := if b then "true" else "false"

end Scaffolder.Text
