import Scaffolder.Text.Cut
import Scaffolder.Text.Digits

/-!
# Project versions

The version of a project's schema: a major number such as `2`, or a major number and a stage
such as `3-alpha`. Any text can be held; `ProjectVersion.major` says which texts are versions.

- `VersionError` names the three ways in which a text fails to be one.
- `ProjectVersion.major` reads the major number and reports the first fault.
- `supportsLayout` and `isLegacy` tell the generations apart: the first is no longer supported,
  and from the third on a project records the plugin that made it.
-/

namespace Scaffolder

/-- The version of a project's schema, as written. -/
structure ProjectVersion where
  /-- The text, not yet checked. -/
  text : String
  deriving DecidableEq, Repr, Inhabited

/-- Why a text is not a project version. -/
inductive VersionError where
  /-- The text is empty. -/
  | empty
  /-- The text does not have the form of a major number with an optional stage. -/
  | malformed (text : String)
  /-- The major number has a leading zero or is too large. -/
  | invalidMajor (text : String)
  deriving DecidableEq, Repr

namespace VersionError

/-- The wording of a version error. -/
def message : VersionError → String
  | .empty => "project version is empty"
  | .malformed text =>
      "project version must be '\x7bmajor\x7d' or '\x7bmajor\x7d-\x7bstage\x7d', got '"
        ++ text ++ "'"
  | .invalidMajor text =>
      "project version major must be a positive integer without leading zeros, got '"
        ++ text ++ "'"

end VersionError

namespace ProjectVersion

/-- The first generation whose projects record a layout key. -/
def layoutMajor : Nat := 3

/-- The generation that is no longer supported. -/
def legacyMajor : Nat := 1

/-- Major numbers lie below this bound. -/
def majorBound : Nat := Nat.pow 2 32

instance : ToString ProjectVersion := ⟨text⟩

/-- Whether nothing is written. -/
def isEmpty (v : ProjectVersion) : Bool := v.text.toList.isEmpty

/-- Versions are ordered as texts, character by character. -/
instance : LE ProjectVersion := ⟨fun v w => v.text ≤ w.text⟩

instance (v w : ProjectVersion) : Decidable (v ≤ w) :=
  inferInstanceAs (Decidable (v.text ≤ w.text))

/-- The major part and the stage, if there is one: the text is cut at its first hyphen. -/
def parts (cs : List Char) : List Char × Option (List Char) :=
  match Text.cutAt '-' cs with
  | some (major, stage) => (major, some stage)
  | none => (cs, none)

/-- A stage is a non-empty run of ASCII lower-case letters and digits. -/
def isStage (cs : List Char) : Bool :=
  !cs.isEmpty && cs.all Text.isLowerOrDigit

/-- The major number of a version. The stage is looked at first, then whether the major part
is a run of digits, then its leading zero, then its size. -/
def major (v : ProjectVersion) : Except VersionError Nat :=
  let cs := v.text.toList
  if cs.isEmpty then .error .empty
  else
    let (digits, stage) := parts cs
    if stage.any fun s => !isStage s then .error (.malformed v.text)
    else if !Text.isDigits digits then .error (.malformed v.text)
    else if digits.head? = some '0' then .error (.invalidMajor v.text)
    else if Text.digitsValue digits < majorBound then .ok (Text.digitsValue digits)
    else .error (.invalidMajor v.text)

/-- What is wrong with a version, if anything. -/
def fault? (v : ProjectVersion) : Option VersionError :=
  match v.major with
  | .ok _ => none
  | .error e => some e

/-- Whether projects of this version record a layout key. -/
def supportsLayout (v : ProjectVersion) : Bool :=
  match v.major with
  | .ok n => decide (layoutMajor ≤ n)
  | .error _ => false

/-- Whether the version is of the first, no longer supported generation. -/
def isLegacy (v : ProjectVersion) : Bool :=
  match v.major with
  | .ok n => n == legacyMajor
  | .error _ => false

end ProjectVersion

end Scaffolder
