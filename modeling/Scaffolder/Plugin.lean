import Scaffolder.Arguments.Matching
import Scaffolder.Log.Event
import Scaffolder.PluginKey
import Scaffolder.Project

/-!
# Plugins

A plugin has a name and a version, supports some project versions, and provides subcommands: `init`,
`create api` and `create webhook`, and any number of named ones in the `alpha` group.

- `Subcommand` is a subcommand that a plugin provides: what it makes of the command, and its handler.
- A handler is a function from an `Invocation`, the matched arguments and the directory to an
  `Outcome`, which holds the directory afterwards.
-/

namespace Scaffolder

/-- The subcommands that the command tree has a place for. -/
inductive SubcommandKind where
  /-- Makes a project. -/
  | init
  /-- Adds a resource to a project. -/
  | createApi
  /-- Adds webhooks to a resource. -/
  | createWebhook
  deriving DecidableEq, Repr, Inhabited

/-- What a handler knows about the run that it is part of. -/
structure Invocation where
  /-- The name of the root command. -/
  commandName : String
  /-- The folder of the project. -/
  projectDir : String
  /-- The project version to go by. -/
  projectVersion : ProjectVersion
  /-- The key of the plugin that provides the handler. -/
  pluginKey : PluginKey
  /-- The configuration of the project, if there is one already. -/
  config : Option Config
  deriving DecidableEq, Repr

/-- Why a handler fails. -/
inductive Failure where
  /-- The project cannot be opened, made or saved. -/
  | project (cause : ProjectError)
  /-- The handler refuses, for a reason of its own. -/
  | refused (reason : String)
  deriving DecidableEq, Repr

/-- The wording of a failure. -/
def Failure.message : Failure → String
  | .project cause => cause.message
  | .refused reason => reason

/-- What a handler leaves behind. -/
structure Outcome where
  /-- The directory afterwards. -/
  directory : Directory
  /-- What was printed. -/
  output : String := ""
  /-- What was logged. -/
  log : List LogEvent := []
  /-- Why the handler failed, if it did. -/
  failure : Option Failure := none

namespace Outcome

/-- The outcome of a handler that fails and changes nothing. -/
def fail (d : Directory) (failure : Failure) : Outcome where
  directory := d
  failure := some failure

end Outcome

/-- A subcommand that a plugin provides. -/
structure Subcommand where
  /-- Adds arguments and help texts to the command. -/
  configure : Command → Command := id
  /-- The handler. -/
  run : Invocation → MatchedCommand → Directory → Outcome

/-- A plugin. -/
structure Plugin where
  /-- The name, not yet checked. -/
  name : String
  /-- The version. -/
  version : PluginVersion
  /-- The project versions that it supports. -/
  projectVersions : List ProjectVersion
  /-- The subcommands that it provides. -/
  subcommand : SubcommandKind → Option Subcommand := fun _ => none
  /-- The named subcommands that it provides. -/
  alpha : List (String × Subcommand) := []
  /-- The warning of a plugin that should no longer be used. -/
  warning : Option String := none
  /-- A number that tells apart plugins that are alike in all else. -/
  serial : Nat := 0

namespace Plugin

/-- The key of a plugin. -/
def key (p : Plugin) : PluginKey := ⟨p.name, some p.version⟩

/-- The key of a plugin as text. -/
def keyText (p : Plugin) : String := p.key.text

/-- Whether a plugin provides a subcommand. -/
def provides (p : Plugin) (kind : SubcommandKind) : Bool := (p.subcommand kind).isSome

end Plugin

end Scaffolder
