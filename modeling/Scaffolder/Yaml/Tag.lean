import Scaffolder.Yaml.Spot
import Scaffolder.Yaml.Scalar.Quoted

/-!
# Tags

The tag of a node says what kind of value the node is. A tag is written as a handle and a
suffix; a `%TAG` line says what a handle stands for. Tags are kept as bytes, because an escape
`%XX` in one stands for a byte.
-/

namespace Scaffolder.Yaml

/-- The bytes of a tag, or of a part of one. -/
abbrev TagText := List UInt8

/-- The bytes of some ASCII characters. -/
def asciiBytes (cs : List Char) : TagText := cs.map fun c => UInt8.ofNat c.toNat

/-- A tag as written. -/
structure TagName where
  /-- The handle, empty for a tag between angle brackets. -/
  handle : TagText
  /-- What follows the handle. -/
  suffix : TagText
  deriving DecidableEq

/-- Whether a character other than `%` may stand in a tag. Commas and square brackets may only
do so between angle brackets. -/
def isTagChar (bracketed : Bool) (c : Char) : Bool :=
  isNameChar c || ";/?:@&=+$.!~*'()".toList.contains c || (bracketed && ",[]".toList.contains c)

/-- How many bytes of a character follow its first one, if the byte can be a first one. -/
def followingBytes? (octet : Nat) : Option Nat :=
  if octet < 0x80 then some 0
  else if octet / 0x20 = 6 then some 1
  else if octet / 0x10 = 14 then some 2
  else if octet / 0x08 = 30 then some 3
  else none

/-- Reads the characters of a tag. `owed` counts the escapes that the character begun needs. -/
def tagCharsFrom (bracketed : Bool) : Nat → List Spot → Option (TagText × List Spot)
  | _, [] => none
  | owed, s :: rest =>
      if s.char = '%' then
        match rest with
        | high :: low :: rest => do
            let high ← hexValue? high.char
            let low ← hexValue? low.char
            let octet := high * 16 + low
            let owed ←
              match owed with
              | 0 => followingBytes? octet
              | more + 1 => if octet / 0x40 = 2 then some more else none
            let (bytes, rest) ← tagCharsFrom bracketed owed rest
            pure (UInt8.ofNat octet :: bytes, rest)
        | _ => none
      else if 0 < owed then none
      else if isTagChar bracketed s.char then do
        let (bytes, rest) ← tagCharsFrom bracketed 0 rest
        pure (UInt8.ofNat s.char.toNat :: bytes, rest)
      else some ([], s :: rest)

/-- The characters of a tag, cut before a zero byte. -/
def tagChars? (bracketed : Bool) (spots : List Spot) : Option (TagText × List Spot) :=
  (tagCharsFrom bracketed 0 spots).map fun r => (r.1.takeWhile (· ≠ 0), r.2)

/-- The characters of a tag where at least one has to be written. One that is cut away counts. -/
def someTagChars? (bracketed : Bool) (spots : List Spot) : Option (TagText × List Spot) := do
  let (bytes, rest) ← tagCharsFrom bracketed 0 spots
  if bytes.isEmpty then failure
  pure (bytes.takeWhile (· ≠ 0), rest)

/-- The handle that starts with the exclamation mark here: a name between two exclamation marks,
or the mark and a name. The name is given back without the marks, and whether the second is
there. -/
def tagHandle (spots : List Spot) : List Char × Bool × List Spot :=
  let (name, rest) := spanChars isNameChar spots.tail
  if ahead 0 rest = '!' then (name, true, rest.tail) else (name, false, rest)

/-- The tag that starts here with an exclamation mark. -/
def tag? (inFlow : Bool) (spots : List Spot) : Option (TagName × List Spot) := do
  let (tag, rest) ←
    if ahead 1 spots = '<' then do
      let (suffix, rest) ← someTagChars? true (spots.drop 2)
      if ahead 0 rest ≠ '>' then failure
      pure (TagName.mk [] suffix, rest.tail)
    else
      match tagHandle spots with
      | (name, true, rest) => do
          let (suffix, rest) ← someTagChars? false rest
          pure (TagName.mk (asciiBytes ('!' :: name ++ ['!'])) suffix, rest)
      | (name, false, rest) => do
          let (more, rest) ← tagChars? false rest
          let suffix := asciiBytes name ++ more
          pure (if suffix.isEmpty then (TagName.mk [] (asciiBytes ['!']), rest)
            else (TagName.mk (asciiBytes ['!']) suffix, rest))
  if isGap (ahead 0 rest) || (inFlow && ahead 0 rest = ',') then pure (tag, rest) else failure

/-- The handles and prefixes that every document has. -/
def standardHandles : List (TagText × TagText) :=
  [(asciiBytes ['!'], asciiBytes ['!']),
    (asciiBytes ['!', '!'], asciiBytes "tag:yaml.org,2002:".toList)]

/-- The whole tag that a written one stands for. -/
def TagName.resolve? (handles : List (TagText × TagText)) (t : TagName) : Option TagText :=
  if t.handle.isEmpty then some t.suffix
  else (handles.lookup t.handle).map (· ++ t.suffix)

/-- The tag of a kind of value that the format itself defines. -/
def standardTag (kind : String) : TagText := asciiBytes ("tag:yaml.org,2002:" ++ kind).toList

end Scaffolder.Yaml
