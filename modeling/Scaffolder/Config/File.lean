import Scaffolder.Config.Document
import Scaffolder.Directory

/-!
# The project file

Where a project's configuration is kept: a file named `PROJECT` in the project's folder.

- `ConfigFile.load` tells three outcomes apart: there is no file, there is one that cannot be read
  or understood, or its configuration.
- `ConfigFile.save` writes a configuration in the stead of the file.
-/

namespace Scaffolder

/-- Why a project file cannot be loaded or saved. -/
inductive ConfigError where
  /-- The file cannot be read. -/
  | read (path : String) (cause : OsError)
  /-- The file is read, but it is no configuration. -/
  | parse (path : String)
  /-- The file cannot be written. -/
  | write (path : String) (cause : OsError)
  deriving DecidableEq, Repr

namespace ConfigError

/-- The wording of a file error. -/
def message : ConfigError → String
  | .read path cause => "failed to read config file '" ++ path ++ "': " ++ cause.message
  | .parse path => "failed to parse config file '" ++ path ++ "'"
  | .write path cause => "failed to write config file '" ++ path ++ "': " ++ cause.message

end ConfigError

namespace ConfigFile

/-- The name of the project file. -/
def fileName : String := "PROJECT"

/-- The path of the project file of a folder. -/
def path (root : String) : String := Path.join root fileName

/-- Loads the configuration of a folder, if there is a project file. -/
def load (d : Directory) (root : String) : Except ConfigError (Option Config) :=
  match d.read (path root) with
  | .error .notFound => .ok none
  | .error cause => .error (.read (path root) cause)
  | .ok text =>
      match Config.parse? text with
      | some config => .ok (some config)
      | none => .error (.parse (path root))

/-- Saves a configuration to a folder. -/
def save (d : Directory) (root : String) (config : Config) : Except ConfigError Directory :=
  match d.write (path root) config.render with
  | .ok d => .ok d
  | .error cause => .error (.write (path root) cause)

end ConfigFile

end Scaffolder
