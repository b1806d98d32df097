import Scaffolder.Text.Utf8

/-!
# The look of an argument

Whether an argument looks like a long flag, a cluster of short flags, the two dashes that end the
flags, or none of these. An argument need not be text; a flag's name is looked at glyph by glyph.
-/

namespace Scaffolder

open Text (Glyph RawText)

namespace Arguments

/-- What an argument looks like. -/
inductive Look where
  /-- Two dashes. -/
  | dashes
  /-- A long name, perhaps with a value behind an equals sign. -/
  | long (name : RawText) (value : Option RawText)
  /-- A dash and the glyphs behind it. -/
  | short (first : Glyph) (others : RawText)
  /-- Anything else. -/
  | plain

/-- The parts before and after the first equals sign. -/
def cutAtEquals : RawText → RawText × Option RawText
  | [] => ([], none)
  | g :: gs =>
      if g = .char '=' then ([], some gs)
      else
        let (name, value) := cutAtEquals gs
        (g :: name, value)

/-- What an argument looks like. A single dash is nothing special. -/
def look : RawText → Look
  | [.char '-', .char '-'] => .dashes
  | .char '-' :: .char '-' :: gs =>
      let (name, value) := cutAtEquals gs
      .long name value
  | .char '-' :: g :: gs => .short g gs
  | _ => .plain

end Arguments

end Scaffolder
