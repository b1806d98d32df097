import Scaffolder.Text.Cut
import Scaffolder.Text.Digits

/-!
# Plugin versions

The version of a plugin: a number and a stage, written `v2`, `v3-alpha` or `v1-beta`.

- `PluginVersion.text` writes a version.
- `PluginVersion.parse?` reads one. Leading zeros are accepted, the number zero is not.
-/

namespace Scaffolder

/-- How mature a plugin version is. -/
inductive Stage where
  /-- Finished. -/
  | stable
  /-- Early, may change in any way. -/
  | alpha
  /-- Late, may still change. -/
  | beta
  deriving DecidableEq, Repr, Inhabited

namespace Stage

/-- What a stage adds to the text of a version. -/
def suffix : Stage → String
  | .stable => ""
  | .alpha => "-alpha"
  | .beta => "-beta"

/-- The name of a stage. -/
def name : Stage → String
  | .stable => "Stable"
  | .alpha => "Alpha"
  | .beta => "Beta"

end Stage

/-- A version of a plugin. -/
structure PluginVersion where
  /-- The number. Zero can be held, but no plugin with it is registered. -/
  number : UInt64
  /-- The maturity. -/
  stage : Stage
  deriving DecidableEq, Repr, Inhabited

namespace PluginVersion

/-- The written form of a version. -/
def text (v : PluginVersion) : String :=
  "v" ++ String.ofList (Nat.toDigits 10 v.number.toNat) ++ v.stage.suffix

instance : ToString PluginVersion := ⟨text⟩

/-- The stage that a suffix names, where the hyphen is left out. -/
def stageNamed? (cs : List Char) : Option Stage :=
  if cs = "alpha".toList then some .alpha
  else if cs = "beta".toList then some .beta
  else none

/-- The digits and the stage of a version without its leading letter. -/
def digitsAndStage? (cs : List Char) : Option (List Char × Stage) :=
  match Text.cutAt '-' cs with
  | some (digits, stage) => (stageNamed? stage).map fun st => (digits, st)
  | none => some (cs, .stable)

/-- The number that some digits write, if it is positive and fits 64 bits. -/
def number? (digits : List Char) : Option UInt64 :=
  let n := Text.digitsValue digits
  if Text.isDigits digits ∧ 0 < n ∧ n < Nat.pow 2 64 then some (UInt64.ofNat n) else none

/-- The version that some characters write, if they write one. -/
def ofChars? : List Char → Option PluginVersion
  | 'v' :: cs => do
      let (digits, stage) ← digitsAndStage? cs
      let number ← number? digits
      pure ⟨number, stage⟩
  | _ => none

/-- The version that a text writes, if it writes one. -/
def parse? (s : String) : Option PluginVersion :=
  ofChars? s.toList

end PluginVersion

end Scaffolder
