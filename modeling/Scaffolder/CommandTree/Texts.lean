import Scaffolder.Registry

/-!
# The texts of the command tree

What the help pages say that does not come from a plugin, and the table of the plugins at hand.

- `CommandTree.pluginTable` has a line for every version; a line lists the candidates of its version
  and marks the default.
-/

namespace Scaffolder.CommandTree

/-- What a user is told who runs a command outside of the place that it needs. -/
def runInProjectMessage : String :=
  "For project-specific information, run this command in the root directory of a project."

/-- What the long help page of the root command says first. -/
def rootLongAbout (name : String) : String :=
  "Scaffold projects from versioned plugin layouts.\n\n"
    ++ "Every project records its project version in a PROJECT file. The version\n"
    ++ "decides which plugins can scaffold the project; projects from version 3\n"
    ++ "onwards also record the plugin that created them as their layout.\n\n"
    ++ "Typical project lifecycle:\n\n"
    ++ "- initialize a project:\n\n"
    ++ "  " ++ name ++ " init --domain example.com\n\n"
    ++ "- create one or more APIs and add your code to them:\n\n"
    ++ "  " ++ name ++ " create api --group <group> --version <version> --kind <Kind>"

/-- What the help page of the root command says last. -/
def rootAfterHelp (name : String) : String :=
  "Examples:\n"
    ++ "  # Initialize a project with the default plugin\n"
    ++ "  " ++ name ++ " init --domain example.com\n\n"
    ++ "  # Initialize a project with a specific plugin\n"
    ++ "  " ++ name ++ " init --project-version 3-alpha --plugins go.scaffold.dev/v3-alpha\n\n"
    ++ "  # Create a frigates API with Group: ship, Version: v1beta1 and Kind: Frigate\n"
    ++ "  " ++ name ++ " create api --group ship --version v1beta1 --kind Frigate"

/-- A text filled up with spaces to a width. -/
def padRight (width : Nat) (s : String) : String :=
  s ++ String.ofList (List.replicate (width - s.length) ' ')

/-- How the table of plugins shows a plugin among those of its version. -/
def tableEntry (default : Option Plugin) (p : Plugin) : String :=
  if (default.map Plugin.key) = some p.key then p.keyText ++ " (default)" else p.keyText

/-- The line of a version in the table of plugins. -/
def tableLine (r : Registry) (v : ProjectVersion) : String :=
  "  " ++ padRight 10 v.text ++ " "
    ++ String.intercalate ", " ((r.pluginsFor v).map (tableEntry (r.defaultFor v))) ++ "\n"

/-- The table of plugins: a line for every version, with its plugins and the default marked. -/
def pluginTable (r : Registry) : String :=
  "Available plugins by project version:\n" ++ String.join (r.versions.map (tableLine r))

end Scaffolder.CommandTree
