/-!
# Bytes as text

Arguments and files are bytes, and bytes need not be text. `decode` reads UTF-8 and loses
nothing: a `RawText` is a list of glyphs, each a character or a piece of bytes that starts no
character.

- A broken piece is as long as it can be: a leading byte together with the following bytes that
  could still belong to it. Every other stray byte is a piece of its own.
- `RawText.text?` is the text of bytes that are text.
- `RawText.lossy` puts the replacement character in the place of every broken piece.
-/

namespace Scaffolder.Text

/-- A character, or bytes that are not one. -/
inductive Glyph where
  /-- A character. -/
  | char (c : Char)
  /-- Bytes that no character starts with. -/
  | broken (bytes : List UInt8)
  deriving DecidableEq, Repr

/-- Text that may hold bytes which are not text. -/
abbrev RawText := List Glyph

namespace RawText

/-- A text as raw text. -/
def ofChars (cs : List Char) : RawText := cs.map .char

/-- A text as raw text. -/
def ofString (s : String) : RawText := ofChars s.toList

/-- The characters of raw text without broken pieces. -/
def chars? : RawText → Option (List Char)
  | [] => some []
  | .char c :: gs => (chars? gs).map (c :: ·)
  | .broken _ :: _ => none

/-- The text of raw text without broken pieces. -/
def text? (gs : RawText) : Option String := (chars? gs).map String.ofList

/-- The characters, with `U+FFFD` for every broken piece. -/
def lossyChars (gs : RawText) : List Char :=
  gs.map fun
    | .char c => c
    | .broken _ => '\uFFFD'

/-- The text, with `U+FFFD` for every broken piece. -/
def lossy (gs : RawText) : String := String.ofList (lossyChars gs)

/-- The bytes of characters are read as these characters. -/
@[simp] theorem chars?_ofChars (cs : List Char) : chars? (ofChars cs) = some cs := by
  induction cs with
  | nil => rfl
  | cons c cs ih =>
    have h : ofChars (c :: cs) = .char c :: ofChars cs := rfl
    rw [h, chars?, ih]
    rfl

/-- Nothing is replaced in the bytes of characters. -/
@[simp] theorem lossyChars_ofChars (cs : List Char) : lossyChars (ofChars cs) = cs := by
  simp [lossyChars, ofChars, Function.comp_def]

end RawText

/-! ## Decoding -/

/-- A character begun: what is read of it and what may follow. -/
structure Unfinished where
  /-- The bytes read. -/
  bytes : List UInt8
  /-- The bits read. -/
  value : Nat
  /-- How many more bytes are needed, one more than this. -/
  owed : Nat
  /-- The least next byte. -/
  least : UInt8
  /-- The greatest next byte. -/
  greatest : UInt8

/-- What a byte that follows no unfinished character can be. -/
inductive Opening where
  /-- A character of one byte. -/
  | whole (c : Char)
  /-- The first byte of a longer character. -/
  | first (rest : Unfinished)
  /-- Neither. -/
  | stray

/-- What a byte opens. The bounds on the second byte leave out overlong forms, surrogates and
numbers above `U+10FFFF`. -/
def opening (b : UInt8) : Opening :=
  let n := b.toNat
  if n < 0x80 then .whole (Char.ofNat n)
  else if n < 0xC2 then .stray
  else if n < 0xE0 then .first ⟨[b], n - 0xC0, 0, 0x80, 0xBF⟩
  else if n = 0xE0 then .first ⟨[b], 0, 1, 0xA0, 0xBF⟩
  else if n = 0xED then .first ⟨[b], 0xD, 1, 0x80, 0x9F⟩
  else if n < 0xF0 then .first ⟨[b], n - 0xE0, 1, 0x80, 0xBF⟩
  else if n = 0xF0 then .first ⟨[b], 0, 2, 0x90, 0xBF⟩
  else if n < 0xF4 then .first ⟨[b], n - 0xF0, 2, 0x80, 0xBF⟩
  else if n = 0xF4 then .first ⟨[b], 4, 2, 0x80, 0x8F⟩
  else .stray

/-- Reads bytes after an unfinished character, or after none. -/
def decodeAfter : Option Unfinished → List UInt8 → RawText
  | none, [] => []
  | some u, [] => [.broken u.bytes]
  | none, b :: bs =>
      match opening b with
      | .whole c => .char c :: decodeAfter none bs
      | .first u => decodeAfter (some u) bs
      | .stray => .broken [b] :: decodeAfter none bs
  | some u, b :: bs =>
      if u.least ≤ b ∧ b ≤ u.greatest then
        let value := u.value * 64 + (b.toNat - 0x80)
        match u.owed with
        | 0 => .char (Char.ofNat value) :: decodeAfter none bs
        | owed + 1 => decodeAfter (some ⟨u.bytes ++ [b], value, owed, 0x80, 0xBF⟩) bs
      else
        .broken u.bytes ::
          match opening b with
          | .whole c => .char c :: decodeAfter none bs
          | .first v => decodeAfter (some v) bs
          | .stray => .broken [b] :: decodeAfter none bs

/-- Bytes as raw text. -/
def decode (bytes : List UInt8) : RawText := decodeAfter none bytes

end Scaffolder.Text
