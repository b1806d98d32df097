import Scaffolder.Plugin
import Scaffolder.Text.Quoted

/-!
# The plugin registry

The plugins at hand, by project version. Plugins are registered in batches. A plain batch offers its
plugins to the project versions that they support; a batch of defaults claims the default of each
of these versions, of which there is only one.

- `Registry.register` registers a batch. What was registered before a fault stays registered.
- `Registry.pluginsFor` lists the candidates of a version: the plain plugins in the order in which
  they came, then the default unless a plain plugin has its key.
- `Registry.defaultFor` is the default of a version, `Registry.versions` lists all versions.
-/

namespace Scaffolder

/-- What is wrong with a plugin on its own. -/
inductive PluginFault where
  /-- The name breaks the rules for names. -/
  | name (cause : KeyError)
  /-- The version number is zero. -/
  | zeroVersion
  /-- No project version is supported. -/
  | noVersions
  /-- A supported project version is none. -/
  | projectVersion (version : ProjectVersion) (cause : VersionError)
  deriving DecidableEq, Repr

/-- The wording of a plugin fault. -/
def PluginFault.message : PluginFault → String
  | .name cause => cause.message
  | .zeroVersion => "plugin version number must be positive"
  | .noVersions => "plugin supports no project versions"
  | .projectVersion version cause =>
      "unsupported project version '" ++ version.text ++ "': " ++ cause.message

/-- Why a batch is refused. -/
inductive RegistryError where
  /-- A version has a default already. -/
  | duplicateDefault (version : ProjectVersion) (existing new : PluginKey)
  /-- Two plain plugins of a version have the same key. -/
  | conflictingKeys (version : ProjectVersion) (key : PluginKey)
  /-- A plugin is not fit to be registered. -/
  | invalidPlugin (key : PluginKey) (fault : PluginFault)
  deriving DecidableEq, Repr

/-- The wording of a registry error. -/
def RegistryError.message : RegistryError → String
  | .duplicateDefault version existing new =>
      "project version '" ++ version.text ++ "' already has default plugin '" ++ existing.text
        ++ "', cannot also set '" ++ new.text ++ "'"
  | .conflictingKeys version key =>
      "more than one plugin for project version '" ++ version.text ++ "' has the key '"
        ++ key.text ++ "'"
  | .invalidPlugin key fault => "invalid plugin '" ++ key.text ++ "': " ++ fault.message

/-- What is wrong with a plugin, if anything: its name is looked at first, then its version
number, then the project versions in their order. -/
def Plugin.fault? (p : Plugin) : Option PluginFault :=
  match PluginName.validate p.name with
  | .error cause => some (.name cause)
  | .ok () =>
      if p.version.number = 0 then some .zeroVersion
      else if p.projectVersions.isEmpty then some .noVersions
      else p.projectVersions.findSome? fun v => v.fault?.map (.projectVersion v)

/-- Plugins that are registered together. -/
structure Batch where
  /-- The plugins. -/
  plugins : List Plugin
  /-- Whether they are defaults. -/
  isDefault : Bool := false

/-- The plugins at hand. -/
structure Registry where
  /-- Each plain plugin with each of its versions, in the order in which they came. -/
  plain : List (ProjectVersion × Plugin) := []
  /-- Each default with its version, in the order in which they came. -/
  defaults : List (ProjectVersion × Plugin) := []

namespace Registry

/-! ## Looking up -/

/-- The plain plugins of a version. -/
def plainFor (r : Registry) (v : ProjectVersion) : List Plugin :=
  (r.plain.filter fun e => e.1 = v).map (·.2)

/-- The default of a version. -/
def defaultFor (r : Registry) (v : ProjectVersion) : Option Plugin := r.defaults.lookup v

/-- The candidates of a version. -/
def pluginsFor (r : Registry) (v : ProjectVersion) : List Plugin :=
  match r.defaultFor v with
  | none => r.plainFor v
  | some p =>
      if (r.plainFor v).any fun q => q.key = p.key then r.plainFor v else r.plainFor v ++ [p]

/-- Puts a version into a list in increasing order, unless it is there. -/
def insertVersion (v : ProjectVersion) : List ProjectVersion → List ProjectVersion
  | [] => [v]
  | w :: ws =>
      if v = w then w :: ws
      else if v ≤ w then v :: w :: ws
      else w :: insertVersion v ws

/-- Versions in increasing order, each once. -/
def sortVersions (vs : List ProjectVersion) : List ProjectVersion := vs.foldr insertVersion []

/-- The versions that plain plugins support. -/
def plainVersions (r : Registry) : List ProjectVersion := sortVersions (r.plain.map (·.1))

/-- The versions that have a default. -/
def defaultVersions (r : Registry) : List ProjectVersion := sortVersions (r.defaults.map (·.1))

/-- All versions that have a plugin. -/
def versions (r : Registry) : List ProjectVersion :=
  sortVersions (r.plain.map (·.1) ++ r.defaults.map (·.1))

/-- The description of a registry. -/
def describe (r : Registry) : String :=
  Text.showRecord "PluginRegistry" <|
    (r.plainVersions.map fun v =>
      (v.text, Text.showList ((r.plainFor v).map fun p => Text.quoted p.keyText)))
    ++ r.defaultVersions.map fun v =>
      ("default " ++ v.text, ((r.defaultFor v).map fun p => Text.quoted p.keyText).getD "")

/-! ## Registering -/

/-- The first key that stands in a list for the second time. -/
def firstRepeated (seen : List PluginKey) : List PluginKey → Option PluginKey
  | [] => none
  | k :: ks => if seen.contains k then some k else firstRepeated (seen ++ [k]) ks

/-- The first version with two plain plugins of the same key, with that key. -/
def conflict? (r : Registry) : Option RegistryError :=
  r.plainVersions.findSome? fun v =>
    (firstRepeated [] ((r.plainFor v).map Plugin.key)).map (.conflictingKeys v)

/-- Offers a plugin to some versions. -/
def addPlain (r : Registry) (p : Plugin) (versions : List ProjectVersion) : Registry :=
  { r with plain := r.plain ++ versions.map fun v => (v, p) }

/-- Claims the default of some versions, up to the first that has one. -/
def addDefault (r : Registry) (p : Plugin) : List ProjectVersion → Registry × Option RegistryError
  | [] => (r, none)
  | v :: vs =>
      match r.defaultFor v with
      | some existing => (r, some (.duplicateDefault v existing.key p.key))
      | none => addDefault { r with defaults := r.defaults ++ [(v, p)] } p vs

/-- Registers plugins one after another, up to the first that is refused. -/
def addAll (isDefault : Bool) (r : Registry) : List Plugin → Registry × Option RegistryError
  | [] => (r, none)
  | p :: ps =>
      match p.fault? with
      | some fault => (r, some (.invalidPlugin p.key fault))
      | none =>
          if isDefault then
            match r.addDefault p p.projectVersions with
            | (r, some e) => (r, some e)
            | (r, none) => addAll isDefault r ps
          else addAll isDefault (r.addPlain p p.projectVersions) ps

/-- Registers a batch, and says why not all of it is accepted, if it is not. After a plain batch,
no two plain plugins of a version may have the same key. -/
def register (r : Registry) (b : Batch) : Registry × Option RegistryError :=
  match addAll b.isDefault r b.plugins with
  | (r, some e) => (r, some e)
  | (r, none) => (r, if b.isDefault then none else r.conflict?)

/-- Registers batches one after another, up to the first fault. -/
def registerAll (r : Registry) : List Batch → Except RegistryError Registry
  | [] => .ok r
  | b :: bs =>
      match r.register b with
      | (_, some e) => .error e
      | (r, none) => registerAll r bs

end Registry

end Scaffolder
