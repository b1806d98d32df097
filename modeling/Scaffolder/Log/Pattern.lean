/-!
# Patterns

Which texts are patterns for the value of a field. No event of this program is in a span, and only
spans have values to match, so it is never asked what a pattern matches. A filter that holds a text
which is no pattern cannot be read, however.

A pattern is a row of items with repetition marks, alternatives between bars, and groups between
parentheses, which may have a name or set flags. An item is a character, a dot, a mark for an end
of the text, an escape, or a class between square brackets. Counted repetition, back references,
word boundaries, classes by a letter and letters in either case are not in the language.

- `Pattern.isPattern` tells whether a text is a pattern.
-/

namespace Scaffolder.Pattern

/-- How far a pattern has been read. -/
structure Progress where
  /-- How many groups are open. -/
  groups : Nat := 0
  /-- How many classes are open, one inside the other. -/
  classes : Nat := 0
  /-- Whether the innermost class has just been opened. A closing bracket is then one of its
  characters. -/
  opening : Bool := false
  /-- Whether there is something that a repetition mark can stand for. -/
  repeatable : Bool := false

/-- Whether a character that is not ASCII, a letter or a digit keeps its place when escaped. -/
def isEscapable (c : Char) : Bool :=
  c.toNat < 0x80 && !c.isAlphanum && c ≠ '<' && c ≠ '>'

/-- Whether a letter after a backslash stands for a control character. -/
def isControlLetter (c : Char) : Bool := "aftnrv".toList.contains c

/-- How many hexadecimal digits belong to a letter after a backslash. -/
def hexDigits? (c : Char) : Option Nat :=
  if c = 'x' then some 2 else if c = 'u' then some 4 else if c = 'U' then some 8 else none

/-- Whether a character is a hexadecimal digit. -/
def isHexDigit (c : Char) : Bool :=
  c.isDigit || ('a' ≤ c && c ≤ 'f') || ('A' ≤ c && c ≤ 'F')

/-- The names of the classes that are written between colons. -/
def classNames : List String :=
  ["alnum", "alpha", "ascii", "blank", "cntrl", "digit", "graph", "lower", "print", "punct",
    "space", "upper", "word", "xdigit"]

/-- Whether a range in a class runs backwards, if the class goes on with one. -/
def runsBackwards (c : Char) : List Char → Bool
  | '-' :: last :: _ => last ≠ ']' && last ≠ '-' && last ≠ '\\' && last < c
  | _ => false

/-- The flags that a group may set: whether a dot stands for a line break too, whether lines have
ends, whether carriage returns end them, and whether repetition takes as little as it can. -/
def isFlag (c : Char) : Bool := "smRU".toList.contains c

/-- Whether some characters are the name of a group. -/
def isGroupName (cs : List Char) : Bool :=
  cs.head?.any (fun c => c == '_' || c.isAlpha)
    && cs.all fun c => c == '_' || c == '.' || c == '[' || c == ']' || c.isAlphanum

/-- How many characters after an opening parenthesis belong to it, and whether it opens a group.
Flags may also be set without a group, for what follows. -/
def opener? (rest : List Char) : Option (Nat × Bool) :=
  let named := fun (marks : Nat) (cs : List Char) =>
    let name := cs.takeWhile (· ≠ '>')
    if isGroupName name && name.length < cs.length then some (marks + name.length + 1, true)
    else none
  match rest with
  | '?' :: 'P' :: '<' :: cs => named 3 cs
  | '?' :: '<' :: cs => named 2 cs
  | '?' :: cs =>
      let flags := cs.takeWhile isFlag
      match cs.drop flags.length with
      | ':' :: _ => if flags.Nodup then some (flags.length + 2, true) else none
      | ')' :: _ =>
          if flags.Nodup ∧ flags ≠ [] then some (flags.length + 2, false) else none
      | _ => none
  | _ => some (0, true)

/-- Reads on inside a pattern. `skip` characters are part of what has been read before. -/
def readOn (p : Progress) (skip : Nat) : List Char → Bool
  | [] => skip == 0 && p.groups == 0 && p.classes == 0
  | c :: rest =>
      match skip with
      | n + 1 => readOn p n rest
      | 0 =>
          if c = '\\' then
            match rest with
            | [] => false
            | e :: more =>
                let read := { p with opening := false, repeatable := true }
                match hexDigits? e with
                | some n =>
                    more.length ≥ n && (more.take n).all isHexDigit && readOn read (n + 1) rest
                | none =>
                    (isEscapable e || isControlLetter e
                        || (p.classes == 0 && (e == 'A' || e == 'z')))
                      && readOn read 1 rest
          else if p.classes == 0 then
            match c with
            | '(' =>
                match opener? rest with
                | some (skip, opens) =>
                    let groups := if opens then p.groups + 1 else p.groups
                    readOn { p with groups, repeatable := false } skip rest
                | none => false
            | ')' =>
                p.groups ≠ 0
                  && readOn { p with groups := p.groups - 1, repeatable := true } 0 rest
            | '|' => readOn { p with repeatable := false } 0 rest
            | '*' | '+' | '?' => p.repeatable && readOn p 0 rest
            | '\x7b' => false
            | '[' =>
                let read := { p with classes := 1, opening := true, repeatable := true }
                readOn read (if rest.head? = some '^' then 1 else 0) rest
            | _ => readOn { p with repeatable := true } 0 rest
          else
            match c with
            | ']' =>
                if p.opening then readOn { p with opening := false } 0 rest
                else readOn { p with classes := p.classes - 1 } 0 rest
            | '[' =>
                match classNames.find? fun name => (":" ++ name ++ ":]").toList.isPrefixOf rest with
                | some name => readOn { p with opening := false } (name.length + 3) rest
                | none =>
                    readOn { p with classes := p.classes + 1, opening := true }
                      (if rest.head? = some '^' then 1 else 0) rest
            | _ => !runsBackwards c rest && readOn { p with opening := false } 0 rest

/-- Whether some characters are digits, perhaps with a point among them. -/
def isDecimal (cs : List Char) : Bool :=
  let fraction := (cs.dropWhile Char.isDigit).drop 1
  cs.any Char.isDigit && cs.all (fun c => c.isDigit || c == '.') && fraction.all Char.isDigit

/-- Whether some characters are an integer, perhaps with a sign. -/
def isInteger : List Char → Bool
  | '+' :: cs | '-' :: cs => !cs.isEmpty && cs.all Char.isDigit
  | cs => !cs.isEmpty && cs.all Char.isDigit

/-- Whether some characters are a number without a sign: a decimal number, perhaps with an
exponent, or the name of what is no finite number. -/
def isNumber (cs : List Char) : Bool :=
  let mantissa := cs.takeWhile fun c => c ≠ 'e' && c ≠ 'E'
  let exponent := cs.drop mantissa.length
  (isDecimal mantissa && (exponent.isEmpty || isInteger exponent.tail))
    || ["inf", "infinity", "nan"].contains (String.ofList (cs.map Char.toLower))

/-- Whether a text is a pattern. A number is taken as it is, so that it may have a plus sign, which
is a repetition mark elsewhere. -/
def isPattern (cs : List Char) : Bool :=
  (cs.head? == some '+' && isNumber cs.tail) || readOn {} 0 cs

end Scaffolder.Pattern
