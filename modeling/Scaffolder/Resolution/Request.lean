import Scaffolder.Config

/-!
# Requests

What a run knows when it chooses a plugin: the project version to go by, the plugin key of the
command line, and the configuration if there is a project.

- `Request.unconfigured` and `Request.configured` are the only ways to make one.
- `Request.layout?` is the layout key of a project whose schema records one.
-/

namespace Scaffolder

/-- What is known when a plugin is chosen. -/
structure Request where
  /-- The project version to go by; in a project, its own. -/
  version : ProjectVersion
  /-- The plugin key of the command line without blanks around it, empty if there is none. -/
  key : String
  /-- The configuration of the project, if there is one. -/
  config : Option Config
  deriving DecidableEq, Repr

namespace Request

/-- The request of a run outside projects. -/
def unconfigured (version : ProjectVersion) (key : String) : Request :=
  ⟨version, Text.trim key, none⟩

/-- The request of a run in a project. -/
def configured (config : Config) (key : String) : Request :=
  ⟨config.version, Text.trim key, some config⟩

/-- Whether there is a project. -/
def isConfigured (r : Request) : Bool := r.config.isSome

/-- Whether the command line has a plugin key. -/
def hasKey (r : Request) : Bool := !r.key.isEmpty

/-- The layout key of a project whose schema records one. It is empty where it should not be. -/
def layout? (r : Request) : Option String :=
  (r.config.filter Config.supportsLayout).map Config.effectiveLayout

/-- Whether only the default plugin can be meant. -/
def requiresDefault (r : Request) : Bool := !r.hasKey && r.layout?.isNone

/-- The description of a request. -/
def describe (r : Request) : String :=
  Text.showRecord "ResolutionContext"
    [("requested_version", r.version.describe), ("cli_plugin_key", Text.quoted r.key),
      ("config", Text.showOption (r.config.map Config.describe))]

end Request

end Scaffolder
