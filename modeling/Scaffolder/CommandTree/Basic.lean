import Scaffolder.CommandTree.Texts

/-!
# The command tree

The commands of a run. They are known only after the plugin is selected: `init` is always there,
`create api` and `create webhook` are if a selected plugin provides them, the `alpha` group has the
named subcommands of the selected plugins, and the host adds commands of its own. Without selected
plugins the tree shows what there could be, and `init` lists the plugins at hand.

- `CommandTree.build` builds the tree. A command of the host may not take the name of another.
-/

namespace Scaffolder

/-- A command that the host adds. -/
structure ExtraCommand where
  /-- The command. -/
  command : Command
  /-- The handler. -/
  run : MatchedCommand → Directory → Outcome

/-- The commands of a run and the handlers behind them. -/
structure CommandTree where
  /-- The root command. -/
  root : Command
  /-- Whether no plugin is selected. -/
  generic : Bool
  /-- The plugin behind each subcommand that the tree has a place for. -/
  provider : SubcommandKind → Option Plugin
  /-- The plugin behind each named subcommand. -/
  alpha : List (String × Plugin)
  /-- The commands that the host adds. -/
  extras : List ExtraCommand

namespace CommandTree

/-! ## Building -/

/-- The root command without subcommands. -/
def rootCommand (name : String) : Command where
  name := name
  about := some "Scaffold projects from versioned plugin layouts"
  longAbout := some (rootLongAbout name)
  afterHelp := some (rootAfterHelp name)
  arguments :=
    [{ id := "project-version"
       kind := .option "project-version"
       global := true
       valueNames := some ["VERSION"]
       help := some "Project version, ignored inside an existing project" },
     { id := "plugins"
       kind := .option "plugins"
       global := true
       valueNames := some ["KEY"]
       help := some "Plugin key to scaffold with, e.g. go.scaffold.dev/v2" }]

/-- The first plugin that provides a subcommand. -/
def findProvider (plugins : List Plugin) (kind : SubcommandKind) : Option Plugin :=
  plugins.find? fun p => p.provides kind

/-- The command as the first plugin that provides the subcommand configures it. -/
def wire (plugins : List Plugin) (kind : SubcommandKind) (plain : Command) : Option Command := do
  let p ← findProvider plugins kind
  let s ← p.subcommand kind
  pure (s.configure plain)

/-- The `init` command. Where no plugin provides it, it lists the plugins at hand. -/
def initCommand (r : Registry) (plugins : List Plugin) : Command :=
  let plain : Command := { name := "init", about := some "Initialize a new project" }
  match wire plugins .init plain with
  | some c => c
  | none => { plain with afterHelp := some (pluginTable r ++ "\n" ++ runInProjectMessage) }

/-- A subcommand of the `create` group: there if a plugin provides it, or if none is selected. -/
def createSubcommand (plugins : List Plugin) (kind : SubcommandKind) (name about : String) :
    List Command :=
  let plain : Command := { name, about := some about }
  match wire plugins kind plain with
  | some c => [c]
  | none =>
      if plugins.isEmpty then [{ plain with afterHelp := some runInProjectMessage }] else []

/-- The `create` group. -/
def createCommand (plugins : List Plugin) : Command where
  name := "create"
  about := some "Scaffold a Kubernetes API or webhook"
  needsSubcommand := true
  subcommands :=
    createSubcommand plugins .createApi "api" "Scaffold a Kubernetes API"
      ++ createSubcommand plugins .createWebhook "webhook" "Scaffold a webhook for an API resource"

/-- A named subcommand and the plugin that offers it. -/
structure Offer where
  /-- The plugin. -/
  plugin : Plugin
  /-- The subcommand. -/
  subcommand : Subcommand

/-- The named subcommands of some plugins, in their order. -/
def offeredAlpha (plugins : List Plugin) : List (String × Offer) :=
  plugins.flatMap fun p => p.alpha.map fun a => (a.1, ⟨p, a.2⟩)

/-- The first of each name. -/
def firstOfEachName {α : Type} (taken : List String) : List (String × α) → List (String × α)
  | [] => []
  | e :: es =>
      if taken.contains e.1 then firstOfEachName taken es
      else e :: firstOfEachName (e.1 :: taken) es

/-- The named subcommands that the tree gets: of each name the first. -/
def claimedAlpha (plugins : List Plugin) : List (String × Offer) :=
  firstOfEachName [] (offeredAlpha plugins)

/-- The `alpha` group. -/
def alphaCommand (plugins : List Plugin) : Command where
  name := "alpha"
  about := some "Experimental commands that may change or be removed"
  needsSubcommand := true
  subcommands := (claimedAlpha plugins).map fun a => a.2.subcommand.configure { name := a.1 }

/-- The group, if it has a subcommand. -/
def unlessEmpty (group : Command) : List Command :=
  if group.subcommands.isEmpty then [] else [group]

/-- The commands that come from plugins. -/
def pluginCommands (r : Registry) (plugins : List Plugin) : List Command :=
  unlessEmpty (alphaCommand plugins) ++ unlessEmpty (createCommand plugins)
    ++ [initCommand r plugins]

/-- Adds the commands of the host one after another, up to the first whose name is taken. That
name is the error. -/
def addExtras (root : Command) : List ExtraCommand → Except String Command
  | [] => .ok root
  | e :: es =>
      if root.subcommandNames.contains e.command.name then .error e.command.name
      else addExtras (root.addSubcommand e.command) es

/-- The command tree for the selected plugins, of which there are none where no plugin is
selected. The error is the name that is taken. -/
def build (name : String) (r : Registry) (plugins : List Plugin) (extras : List ExtraCommand) :
    Except String CommandTree := do
  let root ← addExtras
    { rootCommand name with subcommands := pluginCommands r plugins } extras
  pure
    { root
      generic := plugins.isEmpty
      provider := findProvider plugins
      alpha := (claimedAlpha plugins).map fun a => (a.1, a.2.plugin)
      extras }

/-- The names of the named subcommands. -/
def alphaNames (t : CommandTree) : List String := t.alpha.map (·.1)

end CommandTree

end Scaffolder
