import Scaffolder.Notice
import Scaffolder.Plugin

/-!
# The built-in layouts for Go projects

The plugins that this program ships. They write no code; they keep the project file. `init` records
the version, domain and repository of a project, and its layout where the schema has one.
`create api` records a resource, `create webhook` records webhooks of a resource.

- `ResourceName.fault?` says which names a resource may have.
- `GoLayout.v2` and `GoLayout.v3Alpha` are the two plugins.
-/

namespace Scaffolder

/-- What is wrong with the name of a resource. -/
inductive ResourceFault where
  /-- The group is not made of lower-case letters, digits and hyphens. -/
  | group (text : String)
  /-- The version does not start with a `v`, or with nothing behind it. -/
  | version (text : String)
  /-- The kind is not made of letters and digits after an upper-case letter. -/
  | kind (text : String)
  deriving DecidableEq, Repr

/-- The wording of a resource fault. -/
def ResourceFault.message : ResourceFault → String
  | .group text => "group '" ++ text ++ "' must be lowercase alphanumeric"
  | .version text => "version '" ++ text ++ "' must look like v1 or v1beta1"
  | .kind text => "kind '" ++ text ++ "' must be PascalCase"

namespace ResourceName

/-- Whether a text may be a group: ASCII lower-case letters, digits and hyphens. -/
def isGroup (cs : List Char) : Bool :=
  !cs.isEmpty && cs.all fun c => Text.isLowerOrDigit c || c == '-'

/-- Whether a text may be a version: the letter `v` and something behind it. -/
def isVersion : List Char → Bool
  | 'v' :: cs => !cs.isEmpty
  | _ => false

/-- Whether a text may be a kind: ASCII letters and digits, the first an upper-case letter. -/
def isKind (cs : List Char) : Bool :=
  cs.head?.any Char.isUpper && cs.all Char.isAlphanum

/-- What is wrong with the name of a resource, if anything. -/
def fault? (n : ResourceName) : Option ResourceFault :=
  if !isGroup n.group.toList then some (.group n.group)
  else if !isVersion n.version.toList then some (.version n.version)
  else if !isKind n.kind.toList then some (.kind n.kind)
  else none

end ResourceName

namespace GoLayout

/-- The name of the plugins. -/
def pluginName : String := "go.scaffold.dev"

/-! ## Making a project -/

/-- The domain of a project that names none. -/
def defaultDomain : String := "my.domain"

/-- The configuration of a new project. -/
def newConfig (i : Invocation) (domain repo : String) : Config :=
  { version := i.projectVersion
    domain
    repo
    layout := if i.projectVersion.supportsLayout then i.pluginKey.text else "" }

/-- The event of a project that was made. -/
def initialized (root : String) : LogEvent :=
  ⟨.info, .layout, "project initialized", [("root", root)]⟩

/-- Makes a project. -/
def runInit (i : Invocation) (m : MatchedCommand) (d : Directory) : Outcome :=
  let config := newConfig i ((m.value? "domain").getD defaultDomain) ((m.value? "repo").getD "")
  match Project.init d i.projectDir config with
  | (.error e, d) => .fail d (.project e)
  | (.ok project, d) =>
      { directory := d
        output := Notice.success
          ("Initialized project version " ++ i.projectVersion.text ++ " at " ++ project.root)
        log := [initialized project.root] }

/-- The arguments that describe a project. -/
def initArguments : List Argument :=
  [{ id := "domain"
     kind := .option "domain"
     valueNames := some ["DOMAIN"]
     defaults := [defaultDomain]
     help := some "Domain for API groups" },
   { id := "repo"
     kind := .option "repo"
     valueNames := some ["REPO"]
     defaults := [""]
     help := some "Name of the Go module, e.g. github.com/user/repo" }]

/-- The `init` subcommand. -/
def initSubcommand : Subcommand where
  configure c :=
    { c with
      about := some "Initialize a new Go project"
      afterHelp := some "Writes a PROJECT file recording the project version, domain and repo."
      arguments := c.arguments ++ initArguments }
  run := runInit

/-! ## Recording resources -/

/-- The arguments that name a resource. -/
def resourceArguments : List Argument :=
  [{ id := "group"
     kind := .option "group"
     required := true
     valueNames := some ["GROUP"]
     help := some "Resource group" },
   { id := "version"
     kind := .option "version"
     required := true
     valueNames := some ["VERSION"]
     help := some "Resource version, e.g. v1 or v1beta1" },
   { id := "kind"
     kind := .option "kind"
     required := true
     valueNames := some ["KIND"]
     help := some "Resource kind, e.g. Frigate" }]

/-- The resource that is named. -/
def resourceName (m : MatchedCommand) : ResourceName :=
  ⟨(m.value? "group").getD "", (m.value? "version").getD "", (m.value? "kind").getD ""⟩

/-- Opens the project, changes its configuration if that is not refused, and saves it. -/
def changeProject (d : Directory) (root : String) (change : Config → Except String Config)
    (done : String) : Outcome :=
  match Project.open d root with
  | .error e => .fail d (.project e)
  | .ok project =>
      match change project.config with
      | .error reason => .fail d (.refused reason)
      | .ok config =>
          match Project.save d { project with config } with
          | .error e => .fail d (.project e)
          | .ok d => { directory := d, output := Notice.success done }

/-- The configuration with one more resource. -/
def addApi (name : ResourceName) (c : Config) : Except String Config :=
  if c.hasResource name then .error ("API " ++ name.text ++ " already exists")
  else .ok (c.addResource name)

/-- The configuration with more webhooks of a resource. -/
def addWebhooks (name : ResourceName) (w : Webhooks) (c : Config) : Except String Config :=
  if c.hasResource name then .ok (c.updateWebhooks name fun v => v.union w)
  else .error ("API " ++ name.text ++ " not found, run 'create api' first")

/-- Records a resource. -/
def runCreateApi (i : Invocation) (m : MatchedCommand) (d : Directory) : Outcome :=
  let name := resourceName m
  match name.fault? with
  | some fault => .fail d (.refused fault.message)
  | none => changeProject d i.projectDir (addApi name) ("Created API " ++ name.text)

/-- The `create api` subcommand. -/
def createApiSubcommand : Subcommand where
  configure c :=
    { c with
      about := some "Scaffold a Kubernetes API"
      arguments := c.arguments ++ resourceArguments }
  run := runCreateApi

/-- The webhooks that are asked for. -/
def webhooks (m : MatchedCommand) : Webhooks :=
  ⟨m.has "defaulting", m.has "programmatic_validation"⟩

/-- Records webhooks of a resource. -/
def runCreateWebhook (i : Invocation) (m : MatchedCommand) (d : Directory) : Outcome :=
  let name := resourceName m
  match name.fault? with
  | some fault => .fail d (.refused fault.message)
  | none =>
      if (webhooks m).isEmpty then
        .fail d (.refused
          "at least one of --defaulting or --programmatic-validation is required")
      else
        changeProject d i.projectDir (addWebhooks name (webhooks m))
          ("Created webhook for " ++ name.text)

/-- The arguments that name a resource and webhooks of it. -/
def webhookArguments : List Argument :=
  resourceArguments ++
    [{ id := "defaulting"
       kind := .switch "defaulting"
       valueNames := some ["DEFAULTING"]
       help := some "Scaffold a defaulting webhook" },
     { id := "programmatic_validation"
       kind := .switch "programmatic-validation"
       valueNames := some ["PROGRAMMATIC_VALIDATION"]
       help := some "Scaffold a validating webhook" }]

/-- The `create webhook` subcommand. -/
def createWebhookSubcommand : Subcommand where
  configure c :=
    { c with
      about := some "Scaffold a webhook for an API resource"
      arguments := c.arguments ++ webhookArguments }
  run := runCreateWebhook

/-! ## The plugins -/

/-- A plugin of the layouts. -/
def plugin (version : PluginVersion) (projectVersions : List ProjectVersion) : Plugin where
  name := pluginName
  version
  projectVersions
  subcommand
    | .init => some initSubcommand
    | .createApi => some createApiSubcommand
    | .createWebhook => some createWebhookSubcommand

/-- The plugin for project versions `2` and `3-alpha`. -/
def v2 : Plugin := plugin ⟨2, .stable⟩ [⟨"2"⟩, ⟨"3-alpha"⟩]

/-- The plugin for project version `3-alpha` alone. -/
def v3Alpha : Plugin := plugin ⟨3, .alpha⟩ [⟨"3-alpha"⟩]

end GoLayout

end Scaffolder
