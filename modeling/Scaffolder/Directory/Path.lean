/-!
# Paths

A path as text: names between slashes. Some names are special: a single dot stays where it is, two
dots go one folder up.

- `Path.steps` are the names that a path goes through: those of the folders on the way
  (`Path.folders`) and the one that it ends with (`Path.last?`).
- `Path.ancestors` are the paths that have to be folders before a path can be one, and itself.
-/

namespace Scaffolder.Path

/-- The names on a path. -/
def steps (path : String) : List String :=
  ((path.toList.splitOn '/').map String.ofList).filter fun name => name ≠ ""

/-- Whether a name leads to a folder wherever it stands. -/
def isRelative (name : String) : Bool := name = "." || name = ".."

/-- The name that a path ends with, unless it leads to a folder wherever it stands. -/
def last? (path : String) : Option String :=
  (steps path).getLast?.filter fun name => !isRelative name

/-- The names on a path that have to lead to folders. -/
def folders (path : String) : List String :=
  match last? path with
  | none => steps path
  | some _ => (steps path).dropLast

/-- Whether a path starts at the root of all folders. -/
def isAbsolute (path : String) : Bool := path.toList.head? = some '/'

/-- Whether a path ends with a slash. It can then only name a folder. -/
def endsInSlash (path : String) : Bool := path.toList.getLast? = some '/'

/-- The path of a name in a folder. -/
def join (folder name : String) : String :=
  if folder.isEmpty || endsInSlash folder then folder ++ name else folder ++ "/" ++ name

/-- The paths that end with each name of a list, the shortest first. `before` is what comes before
the list. A single dot is a name only at the start. -/
def upToEach (before : String) : List String → List String
  | [] => []
  | name :: rest =>
      let here := before ++ name
      let longer := upToEach (here ++ "/") rest
      if name = "" ∨ (name = "." ∧ before ≠ "") then longer else here :: longer

/-- A path and the paths of the folders on the way to it, the longest first. The path itself is
left as it is written; a path without names has none. -/
def ancestors (path : String) : List String :=
  match (upToEach "" ((path.toList.splitOn '/').map String.ofList)).reverse with
  | [] => []
  | _ :: outer => path :: outer

end Scaffolder.Path
