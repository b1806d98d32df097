import Scaffolder.Arguments.Prescan
import Scaffolder.CommandTree.Choice
import Scaffolder.Notice
import Scaffolder.Resolution.Gate
import Scaffolder.Resolution.Selection

/-!
# The start of a run

What happens once for every run, before any subcommand: the plugins of the host are registered, the
arguments are looked at for the first time, the project file is loaded, the request is checked, the
plugin is selected, and the command tree is built. Where general help is asked for, nothing is
checked or selected.

- `Host` is what the program around it sets: names, plugins, commands of its own.
- `Host.bootstrap` starts a run, or says why it cannot (`BootstrapError`).
- `Session.run` matches the arguments and runs the handler.
-/

namespace Scaffolder

open Text (RawText)

/-- The program around the plugins. -/
structure Host where
  /-- The name of the root command. -/
  commandName : String := "scaffold"
  /-- The project version where none is asked for and there is no project. -/
  defaultVersion : ProjectVersion := ⟨"2"⟩
  /-- The batches of plugins. -/
  batches : List Batch := []
  /-- The commands of its own. -/
  extras : List ExtraCommand := []
  /-- The folder in which the project file is looked for. -/
  projectDir : String := "."

/-- Why a run cannot start. -/
inductive BootstrapError where
  /-- The default version is none. -/
  | invalidDefaultVersion (version : ProjectVersion) (cause : VersionError)
  /-- The plugins cannot be registered. -/
  | registry (cause : RegistryError)
  /-- The project file cannot be loaded. -/
  | config (cause : ConfigError)
  /-- The project is of the first, no longer supported generation. -/
  | legacyProject (version : ProjectVersion)
  /-- The request makes no sense. -/
  | gate (cause : GateError)
  /-- No plugin can be selected. -/
  | select (cause : SelectError)
  /-- Two commands have the same name. -/
  | duplicateCommand (name : String)
  deriving DecidableEq, Repr

/-- The wording of a bootstrap error. -/
def BootstrapError.message : BootstrapError → String
  | .invalidDefaultVersion version cause =>
      "invalid default project version '" ++ version.text ++ "': " ++ cause.message
  | .registry cause => "broken pre-set plugins: " ++ cause.message
  | .config cause => "failed to read config: " ++ cause.message
  | .legacyProject version =>
      "project version " ++ version.text
        ++ " is no longer supported; migrate the project to a newer project version by "
        ++ "re-initializing it with this tool and moving your code over"
  | .gate cause => cause.message
  | .select cause => cause.message
  | .duplicateCommand name => "command '" ++ name ++ "' already exists"

/-- A run that has started. -/
structure Session where
  /-- The name of the root command. -/
  commandName : String
  /-- The folder of the project. -/
  projectDir : String
  /-- The arguments after the program's name. -/
  arguments : List RawText
  /-- The request. -/
  request : Request
  /-- The selected plugins; there are none where general help is asked for. -/
  selection : Option Selection
  /-- The commands. -/
  tree : CommandTree

namespace Host

/-! ## Starting -/

/-- The registry with the plugins of the host. The default version is checked first. -/
def registry (h : Host) : Except BootstrapError Registry :=
  match h.defaultVersion.fault? with
  | some cause => .error (.invalidDefaultVersion h.defaultVersion cause)
  | none =>
      match Registry.registerAll {} h.batches with
      | .ok r => .ok r
      | .error e => .error (.registry e)

/-- The request of a run. In a project the version is the project's own, whatever is asked for. -/
def request (h : Host) (d : Directory) (scan : Prescan) : Except BootstrapError Request :=
  match ConfigFile.load d h.projectDir with
  | .error e => .error (.config e)
  | .ok (some config) =>
      if config.isLegacy then .error (.legacyProject config.version)
      else .ok (.configured config scan.key)
  | .ok none => .ok (.unconfigured (scan.version h.defaultVersion) scan.key)

/-- The selection of a run, which is not made where general help is asked for. -/
def selection (registry : Registry) (request : Request) (scan : Prescan) :
    Except BootstrapError (Option Selection) :=
  if scan.genericHelp then .ok none
  else
    match request.gate registry with
    | .error e => .error (.gate e)
    | .ok () =>
        match request.select registry with
        | .error e => .error (.select e)
        | .ok s => .ok (some s)

/-- The plugins of a selection. -/
def selectedPlugins (selection : Option Selection) : List Plugin :=
  (selection.map Selection.plugins).getD []

/-- The command tree of a run. -/
def tree (h : Host) (registry : Registry) (selection : Option Selection) :
    Except BootstrapError CommandTree :=
  match CommandTree.build h.commandName registry (selectedPlugins selection) h.extras with
  | .error name => .error (.duplicateCommand name)
  | .ok t => .ok t

/-- Starts a run in a directory with an argument list, whose first argument is the program's
name. -/
def bootstrap (h : Host) (d : Directory) (argv : List RawText) : Except BootstrapError Session := do
  let registry ← h.registry
  let scan := Prescan.scan argv
  let request ← h.request d scan
  let selection ← selection registry request scan
  let tree ← h.tree registry selection
  pure
    { commandName := h.commandName
      projectDir := h.projectDir
      arguments := argv.tail
      request
      selection
      tree }

end Host

namespace Session

/-- The warnings of the selected plugins that should no longer be used. -/
def warnings (s : Session) : List String := (s.selection.map Selection.warnings).getD []

/-- What is printed when the run has started. -/
def notices (s : Session) : String := Notice.deprecations s.warnings

/-- Whether general help is asked for. -/
def isGenericHelp (s : Session) : Bool := s.selection.isNone

/-- What the handler of a plugin knows about the run. -/
def invocation (s : Session) (p : Plugin) : Invocation :=
  { commandName := s.commandName
    projectDir := s.projectDir
    projectVersion := s.request.version
    pluginKey := p.key
    config := s.request.config }

/-- Matches the arguments and runs the handler that they ask for. -/
def run (s : Session) (d : Directory) : CommandTree.RunResult :=
  s.tree.run s.arguments s.invocation d

/-- The description of a started run. -/
def describe (s : Session) : String :=
  Text.showRecord "Cli"
    [("command_name", Text.quoted s.commandName), ("context", s.request.describe),
      ("resolved", Text.showOption (s.selection.map Selection.describe))]

end Session

/-! ## What is logged -/

namespace Host

/-- The event of a step of the start. -/
def startEvent (message : String) (fields : List (String × String) := []) : LogEvent :=
  ⟨.debug, .bootstrap, message, fields⟩

/-- The event of the first look at the arguments. -/
def scanEvent (h : Host) (scan : Prescan) : LogEvent :=
  startEvent "pre-scanned arguments" [("scan", scan.describe h.defaultVersion)]

/-- What is logged when another version is asked for than that of the project. -/
def ignoredVersionLog (request : Request) (scan : Prescan) : List LogEvent :=
  match request.config, scan.requested with
  | some config, some requested =>
      if requested = config.version then []
      else
        [startEvent "ignoring --project-version inside a configured project"
          [("requested", requested.text), ("configured", config.version.text)]]
  | _, _ => []

/-- The description of a plugin key. -/
def describeKey (k : PluginKey) : String :=
  let version := k.version.map fun v =>
    Text.showRecord "PluginVersion"
      [("number", String.ofList (Nat.toDigits 10 v.number.toNat)), ("stage", v.stage.name)]
  Text.showRecord "PluginKey"
    [("name", Text.quoted k.name), ("version", Text.showOption version)]

/-- The event of a selection. -/
def selectedEvent (s : Selection) : LogEvent :=
  startEvent "resolved plugins" [("plugins", Text.showList (s.keys.map describeKey))]

/-- The event of a selected plugin that should no longer be used. -/
def warningEvent (warning : String) : LogEvent :=
  ⟨.warn, .bootstrap, "resolved a deprecated plugin", [("notice", warning)]⟩

/-- What is logged when the plugin is selected. -/
def selectionLog (registry : Registry) (request : Request) (scan : Prescan) : List LogEvent :=
  if scan.genericHelp then [startEvent "generic help requested, skipping plugin resolution"]
  else
    match request.gate registry with
    | .error _ => []
    | .ok () =>
        request.selectLog registry ++
          match request.select registry with
          | .error _ => []
          | .ok s => [selectedEvent s]

/-- What is logged when a run starts, or cannot start. -/
def bootstrapLog (h : Host) (d : Directory) (argv : List RawText) : List LogEvent :=
  match h.registry with
  | .error _ => []
  | .ok registry =>
      let scan := Prescan.scan argv
      let decided :=
        match h.request d scan with
        | .error _ => []
        | .ok request => ignoredVersionLog request scan ++ selectionLog registry request scan
      let warned :=
        match h.bootstrap d argv with
        | .error _ => []
        | .ok s => s.warnings.map warningEvent
      h.scanEvent scan :: decided ++ warned

end Host

end Scaffolder
