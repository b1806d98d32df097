import Scaffolder.Registry
import Scaffolder.Resolution.Request

/-!
# The selection of a plugin

Which plugin a request means.

1. A plugin key of the command line names it.
2. Else, in a project whose schema records a layout key, that key names it.
3. Else it is the default of the project version.

A key is matched against the default of the version first, and against all candidates if the
default does not match. So a key without a version part means the default wherever the default
has that name, however many other plugins have it.

- `Selection.ofKey` matches a key against candidates.
- `Request.select` selects the plugin of a request.
-/

namespace Scaffolder

/-- Why no plugin can be selected. -/
inductive SelectError where
  /-- The key has no name. -/
  | emptyName (key : String)
  /-- No candidate matches the key. -/
  | noMatch (key : String)
  /-- Several candidates match the key. -/
  | ambiguous (key : String) (candidates : List String)
  /-- The project should record a layout key and does not. -/
  | missingLayout (version : ProjectVersion)
  /-- The version has no default. -/
  | noDefault (version : ProjectVersion)
  deriving DecidableEq, Repr

/-- The wording of a selection error. -/
def SelectError.message : SelectError → String
  | .emptyName key => "plugin key '" ++ key ++ "' has an empty name"
  | .noMatch key => "no plugin could be resolved with key '" ++ key ++ "'"
  | .ambiguous key candidates =>
      "plugin key '" ++ key ++ "' is ambiguous, it matches "
        ++ String.intercalate ", " candidates ++ "; specify a version to pick one"
  | .missingLayout version =>
      "config for project version '" ++ version.text ++ "' must have a layout value"
  | .noDefault version => "no default plugin for project version '" ++ version.text ++ "'"

/-- The plugins that are selected. -/
structure Selection where
  /-- The plugins. -/
  plugins : List Plugin

namespace Selection

/-- The selection of one plugin. -/
def single (p : Plugin) : Selection := ⟨[p]⟩

/-- The keys of the selected plugins. -/
def keys (s : Selection) : List PluginKey := s.plugins.map Plugin.key

/-- The warnings of the selected plugins that should no longer be used. -/
def warnings (s : Selection) : List String := s.plugins.filterMap Plugin.warning

/-- The description of a selection. -/
def describe (s : Selection) : String :=
  Text.showList (s.keys.map fun k => Text.quoted k.text)

/-- Whether a plugin has the given name and, where a version is given, that version. -/
def fits (name version : String) (p : Plugin) : Bool :=
  p.name == name && (version.isEmpty || p.version.text == version)

/-- The one candidate that matches a key. A key without a version part matches every version of
its name. -/
def ofKey (candidates : List Plugin) (key : String) : Except SelectError Selection :=
  let (name, version) := splitKey key
  if name.isEmpty then .error (.emptyName key)
  else
    match candidates.filter (fits name version) with
    | [] => .error (.noMatch key)
    | [p] => .ok (single p)
    | many => .error (.ambiguous key (many.map Plugin.keyText))

/-- The plugin that a key means for a version: the default if it matches, else the one candidate
that does. -/
def ofVersionKey (registry : Registry) (version : ProjectVersion) (key : String) :
    Except SelectError Selection :=
  match ofKey (registry.defaultFor version).toList key with
  | .ok s => .ok s
  | .error _ => ofKey (registry.pluginsFor version) key

end Selection

namespace Request

/-- The selection of the plugin that a request means. -/
def select (r : Request) (registry : Registry) : Except SelectError Selection :=
  if r.hasKey then Selection.ofVersionKey registry r.version r.key
  else
    match r.layout? with
    | some layout =>
        if layout.isEmpty then .error (.missingLayout r.version)
        else Selection.ofVersionKey registry r.version layout
    | none =>
        match registry.defaultFor r.version with
        | some p => .ok (.single p)
        | none => .error (.noDefault r.version)

/-! ## What is logged -/

/-- The event of a decision of the selection. -/
def selectEvent (message : String) (fields : List (String × String)) : LogEvent :=
  ⟨.debug, .selection, message, fields⟩

/-- What is logged when a key does not match the default. -/
def widenLog (registry : Registry) (version : ProjectVersion) (key : String) : List LogEvent :=
  match Selection.ofKey (registry.defaultFor version).toList key with
  | .ok _ => []
  | .error e =>
      [selectEvent "default plugin did not match, trying all plugins"
        [("key", key), ("error", e.message)]]

/-- What is logged when the plugin of a request is selected. -/
def selectLog (r : Request) (registry : Registry) : List LogEvent :=
  if r.hasKey then
    selectEvent "resolving plugins from --plugins" [("key", r.key), ("version", r.version.text)]
      :: widenLog registry r.version r.key
  else
    match r.layout? with
    | some layout =>
        if layout.isEmpty then []
        else
          selectEvent "resolving plugins from project layout"
              [("layout", layout), ("version", r.version.text)]
            :: widenLog registry r.version layout
    | none => [selectEvent "using default plugin" [("version", r.version.text)]]

end Request

end Scaffolder
