import Scaffolder.Text.Digits
import Scaffolder.Text.Cut
import Scaffolder.Yaml.Scalar.Quoted

/-!
# What a plain scalar means

A scalar without quotes may be more than a text: nothing at all, a truth value, an integer or a
number with a fraction. `Meaning.ofPlain` says what it is.

- An integer is decimal, or hexadecimal, octal or binary after `0x`, `0o` or `0b`, and lies
  between `-2^127` and `2^128`. Decimal digits after a leading zero are text.
- Any other decimal number is a real number if a double-precision number can hold it; the
  infinities and the value that is no number have their own spellings.
-/

namespace Scaffolder.Yaml

/-- What a scalar without quotes means. -/
inductive Meaning where
  /-- Nothing. -/
  | nothing
  /-- A truth value. -/
  | truth (b : Bool)
  /-- An integer. -/
  | integer (n : Int)
  /-- A number that is not written as an integer, or is too large for one. -/
  | real
  /-- A text. -/
  | text
  deriving DecidableEq

namespace Meaning

/-- The truth value that some characters spell. -/
def truth? (cs : List Char) : Option Bool :=
  let s := String.ofList cs
  if s = "true" ∨ s = "True" ∨ s = "TRUE" then some true
  else if s = "false" ∨ s = "False" ∨ s = "FALSE" then some false
  else none

/-- Whether some characters spell nothing. -/
def isNothing (cs : List Char) : Bool :=
  let s := String.ofList cs
  s == "" || s == "~" || s == "null" || s == "Null" || s == "NULL"

/-- Whether some characters are decimal digits, more than one, after a leading zero. -/
def hasLeadingZero (cs : List Char) : Bool :=
  match (match cs with | '+' :: r => r | '-' :: r => r | r => r) with
  | '0' :: digits => !digits.isEmpty && digits.all Char.isDigit
  | _ => false

/-! ## Integers -/

/-- The number that some digits write in a base. -/
def digitsIn? (base : Nat) (cs : List Char) : Option Nat :=
  if cs.isEmpty then none
  else
    cs.foldl
      (fun n c => do
        let n ← n
        let d ← hexValue? c
        if d < base then pure (n * base + d) else none)
      (some 0)

/-- The number after one of the marks of a base. -/
def marked? : List Char → Option Nat
  | '0' :: 'x' :: cs => digitsIn? 16 cs
  | '0' :: 'o' :: cs => digitsIn? 8 cs
  | '0' :: 'b' :: cs => digitsIn? 2 cs
  | _ => none

/-- The magnitude of an integer without its sign. `cs` has the sign, `digits` has not. It is
below a bound. -/
def magnitude? (bound : Nat) (cs digits : List Char) : Option Nat :=
  let small (n : Option Nat) := n.filter (· < bound)
  match small (marked? digits) with
  | some n => some n
  | none => if hasLeadingZero cs then none else small (digitsIn? 10 digits)

/-- Integers lie below this bound, and not below its negated half. -/
def integerBound : Nat := Nat.pow 2 128

/-- The integer that some characters write. -/
def integer? (cs : List Char) : Option Int :=
  match cs with
  | '-' :: digits => (magnitude? (integerBound / 2 + 1) cs digits).map fun n => -(n : Int)
  | '+' :: digits => (magnitude? integerBound cs digits).map fun n => (n : Int)
  | digits => (magnitude? integerBound cs digits).map fun n => (n : Int)

/-! ## Real numbers -/

/-- A decimal number without its sign: its digits and the power of ten of the last one. -/
structure Decimal where
  /-- The digits. -/
  digits : List Char
  /-- The power of ten that the last digit counts. -/
  exponent : Int

/-- The exponent that stands at the end of a decimal number; nothing is a zero. -/
def exponent? (cs : List Char) : Option Int :=
  match cs with
  | [] => some 0
  | e :: cs =>
      if e ≠ 'e' ∧ e ≠ 'E' then none
      else
        let (negative, digits) :=
          match cs with
          | '-' :: r => (true, r)
          | '+' :: r => (false, r)
          | r => (false, r)
        if Text.isDigits digits then
          some (if negative then -(Text.digitsValue digits : Int) else Text.digitsValue digits)
        else none

/-- The decimal number that some characters write: digits, perhaps with a point before, among or
after them, and perhaps an exponent. -/
def decimal? (cs : List Char) : Option Decimal := do
  let whole := cs.takeWhile Char.isDigit
  let rest := cs.dropWhile Char.isDigit
  let (fraction, rest) :=
    match rest with
    | '.' :: r => (r.takeWhile Char.isDigit, r.dropWhile Char.isDigit)
    | r => ([], r)
  if whole.isEmpty && fraction.isEmpty then failure
  let exponent ← exponent? rest
  pure ⟨whole ++ fraction, exponent - fraction.length⟩

/-- From this magnitude on a number rounds to infinity in double precision. -/
def overflowBound : Nat := Nat.pow 2 1024 - Nat.pow 2 970

/-- Whether double precision can hold a decimal number. -/
def Decimal.isFinite (d : Decimal) : Bool :=
  let digits := d.digits.dropWhile (· == '0')
  let size : Int := digits.length + d.exponent
  if digits.isEmpty || size < 300 then true
  else if 400 < size then false
  else
    let n := Text.digitsValue digits
    if d.exponent < 0 then n < overflowBound * Nat.pow 10 d.exponent.natAbs
    else n * Nat.pow 10 d.exponent.natAbs < overflowBound

/-- Whether some characters write a real number. -/
def isReal (cs : List Char) : Bool :=
  let finite (cs : List Char) := (decimal? cs).any Decimal.isFinite
  let infinite (cs : List Char) :=
    let s := String.ofList cs
    s == ".inf" || s == ".Inf" || s == ".INF"
  match cs with
  | '+' :: r => infinite r || finite r
  | '-' :: r => infinite r || finite r
  | r =>
      let s := String.ofList r
      infinite r || s == ".nan" || s == ".NaN" || s == ".NAN" || finite r

/-- What a scalar without quotes means. -/
def ofPlain (cs : List Char) : Meaning :=
  if isNothing cs then .nothing
  else
    match truth? cs, integer? cs with
    | some b, _ => .truth b
    | none, some n => .integer n
    | none, none => if !hasLeadingZero cs && isReal cs then .real else .text

end Meaning

end Scaffolder.Yaml
