import Scaffolder.Registry
import Scaffolder.Resolution.Request

/-!
# The gate before the selection

Checks that a request makes sense, before any plugin is selected. A user then reads an error about
what was asked for, and not one from within the selection.

- `Request.gate` makes the checks; the first that fails is reported.
-/

namespace Scaffolder

/-- Why a request makes no sense. -/
inductive GateError where
  /-- The project version is none. -/
  | invalidVersion (version : ProjectVersion) (cause : VersionError)
  /-- No plugin supports the version. -/
  | noPlugins (version : ProjectVersion)
  /-- The version has no default, and nothing else names a plugin. -/
  | noDefault (version : ProjectVersion)
  /-- The name in the plugin key of the command line is none. -/
  | invalidName (name : String) (cause : KeyError)
  /-- The version part of the plugin key of the command line is none. -/
  | invalidPluginVersion (version : String) (cause : KeyError)
  deriving DecidableEq, Repr

/-- The wording of a gate error. -/
def GateError.message : GateError → String
  | .invalidVersion version cause =>
      "invalid project version '" ++ version.text ++ "': " ++ cause.message
  | .noPlugins version => "no plugins for project version '" ++ version.text ++ "'"
  | .noDefault version => "no default plugins for project version '" ++ version.text ++ "'"
  | .invalidName name cause => "invalid plugin name '" ++ name ++ "': " ++ cause.message
  | .invalidPluginVersion version cause =>
      "invalid plugin version '" ++ version ++ "': " ++ cause.message

namespace Request

/-- Checks the form of a plugin key. The version part may be missing. -/
def gateKey (key : String) : Except GateError Unit :=
  let (name, version) := splitKey key
  match PluginName.validate name with
  | .error cause => .error (.invalidName name cause)
  | .ok () =>
      if version.isEmpty then .ok ()
      else
        match PluginVersion.parse version with
        | .error cause => .error (.invalidPluginVersion version cause)
        | .ok _ => .ok ()

/-- Checks a request: the form of its version, whether the version has plugins, whether it has a
default where only that can be meant, and the form of the plugin key. -/
def gate (r : Request) (registry : Registry) : Except GateError Unit :=
  match r.version.fault? with
  | some cause => .error (.invalidVersion r.version cause)
  | none =>
      if (registry.pluginsFor r.version).isEmpty then .error (.noPlugins r.version)
      else if r.requiresDefault && (registry.defaultFor r.version).isNone then
        .error (.noDefault r.version)
      else if r.hasKey then gateKey r.key
      else .ok ()

end Request

end Scaffolder
