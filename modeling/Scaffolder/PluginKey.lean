import Scaffolder.Text.Blank
import Scaffolder.PluginName
import Scaffolder.PluginVersion

/-!
# Plugin keys

A plugin key names a plugin: `go.scaffold.dev` names every version of that name, and
`go.scaffold.dev/v2` names exactly one.

- `splitKey` cuts a key at its first slash.
- `PluginKey.text` writes a key and `PluginKey.parse` reads one, after trimming.
- `KeyError` names the ways in which a text fails to be a key.
-/

namespace Scaffolder

/-- Why a text is not a plugin key. -/
inductive KeyError where
  /-- The key has no name. -/
  | emptyKey
  /-- The name breaks the rules for names. -/
  | invalidName (name : String) (fault : NameFault)
  /-- The version part is not a plugin version. -/
  | invalidVersion (text : String)
  deriving DecidableEq, Repr

namespace KeyError

/-- The wording of a key error. -/
def message : KeyError → String
  | .emptyKey => "plugin key is empty"
  | .invalidName name fault =>
      "plugin name '" ++ name ++ "' is not a DNS-1123 subdomain: " ++ fault.message
  | .invalidVersion text =>
      "plugin version must be 'v\x7bnumber\x7d' or 'v\x7bnumber\x7d-\x7balpha|beta\x7d', got '"
        ++ text ++ "'"

end KeyError

/-- The name and the version part of a key, cut at the first slash. A key without a slash has an
empty version part. -/
def splitKey (key : String) : String × String :=
  match Text.cutAt '/' key.toList with
  | some (name, version) => (String.ofList name, String.ofList version)
  | none => (key, "")

namespace PluginName

/-- Accepts a plugin name, or says why it is not one. -/
def validate (name : String) : Except KeyError Unit :=
  match fault? name with
  | none => .ok ()
  | some fault => .error (.invalidName name fault)

end PluginName

namespace PluginVersion

/-- The version that a text writes, or the error of a text that writes none. -/
def parse (s : String) : Except KeyError PluginVersion :=
  match parse? s with
  | some v => .ok v
  | none => .error (.invalidVersion s)

end PluginVersion

/-- The key of a plugin: its name, and its version if one is meant. -/
structure PluginKey where
  /-- The name, not yet checked. -/
  name : String
  /-- The version, absent in a key that names all of them. -/
  version : Option PluginVersion
  deriving DecidableEq, Repr, Inhabited

namespace PluginKey

/-- The written form of a key. -/
def text (k : PluginKey) : String :=
  match k.version with
  | some v => k.name ++ "/" ++ v.text
  | none => k.name

instance : ToString PluginKey := ⟨text⟩

/-- The key that a text writes, blanks around it aside. -/
def parse (s : String) : Except KeyError PluginKey := do
  let (name, version) := splitKey (Text.trim s)
  if name.isEmpty then throw .emptyKey
  PluginName.validate name
  if version.isEmpty then
    pure ⟨name, none⟩
  else
    let v ← PluginVersion.parse version
    pure ⟨name, some v⟩

end PluginKey

end Scaffolder
