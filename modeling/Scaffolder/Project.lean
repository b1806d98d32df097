import Scaffolder.Config.File

/-!
# Projects

A handle on a project: the folder it stands in and its configuration.

- `Project.«open»` opens the project of a folder.
- `Project.init` makes one, in a folder without a project file.
- `Project.save` writes the configuration back.
-/

namespace Scaffolder

/-- Why a project cannot be opened, made or saved. -/
inductive ProjectError where
  /-- The project file cannot be loaded or saved. -/
  | config (cause : ConfigError)
  /-- There is a project file already. -/
  | alreadyExists (root : String)
  /-- There is no project file. -/
  | notInProject (root : String)
  /-- The project's folder cannot be made. -/
  | noFolder (root : String) (cause : OsError)
  deriving DecidableEq, Repr

namespace ProjectError

/-- The wording of a project error. -/
def message : ProjectError → String
  | .config cause => cause.message
  | .alreadyExists root => "Project already initialized at " ++ root
  | .notInProject root => "No PROJECT file in " ++ root ++ ". Run 'init' first."
  | .noFolder root cause =>
      "Failed to create project directory: " ++ root ++ ": " ++ cause.message

end ProjectError

/-- A project at hand. -/
structure Project where
  /-- The folder of the project. -/
  root : String
  /-- Its configuration, perhaps not saved yet. -/
  config : Config
  deriving DecidableEq, Repr

namespace Project

/-- Opens the project of a folder. -/
def «open» (d : Directory) (root : String) : Except ProjectError Project :=
  match ConfigFile.load d root with
  | .error cause => .error (.config cause)
  | .ok none => .error (.notInProject root)
  | .ok (some config) => .ok ⟨root, config⟩

/-- Writes the configuration of a project to its file. -/
def save (d : Directory) (p : Project) : Except ProjectError Directory :=
  match ConfigFile.save d p.root p.config with
  | .error cause => .error (.config cause)
  | .ok d => .ok d

/-- Makes the folder of a new project and saves its configuration. What stands at the path of the
project file is left alone, as far as it is found before the folder is made. The folders that are
made stay, whatever is refused then. -/
def init (d : Directory) (root : String) (config : Config) :
    Except ProjectError Project × Directory :=
  if d.exists (ConfigFile.path root) then (.error (.alreadyExists root), d)
  else
    match d.makeFolders root with
    | (.error cause, d) => (.error (.noFolder root cause), d)
    | (.ok (), d) =>
        match save d ⟨root, config⟩ with
        | .error e => (.error e, d)
        | .ok d => (.ok ⟨root, config⟩, d)

end Project

end Scaffolder
