import Scaffolder.Directory.Entry
import Scaffolder.Directory.Path
import Scaffolder.OsError

/-!
# The state of a directory

The files and folders that a run can reach, and the working directory among them.

- `Directory.read`, `write`, `makeFolders` and `exists` are the operations that a run may ask for.
  Each either answers or names the operating system's reason for refusing (`OsError`).
- What is refused changes nothing, with one exception: the folders that `makeFolders` has made on
  the way before it is refused one stay.

A path is walked name by name, from the working directory or from the root of all folders, and every
name before the last has to be a folder. Two dots lead one folder up, and from the root to the root.

Where a file or a folder may not be put, for want of permission or of space, is for the file system
to say (`Directory.denies`). It may say so by the place and by what is to be put there.
-/

namespace Scaffolder

/-- The files and folders that a run can reach. -/
structure Directory where
  /-- What the root of all folders holds under each name. -/
  children : List (String × Entry) := []
  /-- The place of the working directory. -/
  here : Place := []
  /-- What the file system lacks for something to be put at a place, if anything. -/
  denies : Place → Entry → Option Denial := fun _ _ => none

namespace Directory

/-- The root of all folders. -/
def root (d : Directory) : Entry := .folder d.children

/-- What stands at a place. The root is a folder. -/
def find? (d : Directory) (place : Place) : Option Entry := d.root.find? place

/-- The directory with something at a place, in the stead of what stood there. -/
def insert (d : Directory) (place : Place) (entry : Entry) : Directory :=
  { d with children := (d.root.insert place entry).children }

/-- What was put at a place stands there. -/
theorem find?_insert_self (d : Directory) {place : Place} (entry : Entry) (h : place ≠ []) :
    (d.insert place entry).find? place = some entry := by
  cases place with
  | nil => exact absurd rfl h
  | cons name place => exact d.root.find?_insert_self (name :: place) entry

/-- What stands neither on the way to that place nor below it is as it was. -/
theorem find?_insert_of_apart (d : Directory) {place other : Place} (entry : Entry)
    (above : ¬ other <+: place) (below : ¬ place <+: other) :
    (d.insert place entry).find? other = d.find? other := by
  cases place with
  | nil => exact absurd List.nil_prefix below
  | cons name place => exact d.root.find?_insert_of_apart entry above below

/-- What stands under a name in the folder at a place. -/
theorem find?_concat {d : Directory} {place : Place} {children : List (String × Entry)}
    (h : d.find? place = some (.folder children)) (name : String) :
    d.find? (place ++ [name]) = children.lookup name := by
  have happend := d.root.find?_append place [name]
  exact (happend.trans (congrArg (Option.bind · _) h)).trans (Option.bind_fun_some _)

/-! ## Walking -/

/-- A folder that a walk has come to. -/
structure Folder (d : Directory) where
  /-- The names that lead to it from the root, the innermost first. -/
  trail : List String
  /-- What it holds under each name. -/
  children : List (String × Entry)
  /-- It stands where the names lead to. -/
  stands : d.find? trail.reverse = some (.folder children)

/-- The root as a folder to walk from. -/
def top (d : Directory) : d.Folder := ⟨[], d.children, rfl⟩

/-- The folder that some names lead to, the innermost first, if there is one. -/
def folder? (d : Directory) (trail : List String) : Option d.Folder :=
  match stands : d.find? trail.reverse with
  | some (.folder children) => some ⟨trail, children, stands⟩
  | _ => none

namespace Folder

variable {d : Directory}

/-- The place of a folder. -/
def place (f : d.Folder) : Place := f.trail.reverse

/-- One folder up. The root is its own. -/
def up (f : d.Folder) : d.Folder := (d.folder? f.trail.tail).getD d.top

/-- The folder under a name in a folder. -/
def enter (f : d.Folder) (name : String) : Except OsError d.Folder :=
  match found : f.children.lookup name with
  | none => .error .notFound
  | some (.folder children) =>
      .ok ⟨name :: f.trail, children, by
        rw [List.reverse_cons, find?_concat f.stands, found]⟩
  | some _ => .error .notDirectory

end Folder

/-- Refuses names that no file can have. -/
def checkName (name : String) : Except OsError Unit :=
  if 255 < name.utf8ByteSize then .error .nameTooLong else .ok ()

/-- Refuses texts that no path can be. -/
def checkPath (path : String) : Except OsError Unit :=
  if path.toList.contains '\x00' then .error .nulInName
  else if 4095 < path.utf8ByteSize then .error .nameTooLong
  else if path.isEmpty then .error .notFound
  else .ok ()

/-- Where a path starts: at the root, or in the working directory. -/
def start (d : Directory) (path : String) : Except OsError d.Folder :=
  if Path.isAbsolute path then .ok d.top
  else
    match d.folder? d.here.reverse with
    | some f => .ok f
    | none => .error .notFound

/-- Goes on from a folder to another by its name. -/
def step (d : Directory) (f : d.Folder) (name : String) : Except OsError d.Folder :=
  if name = "." then .ok f
  else if name = ".." then .ok f.up
  else do
    checkName name
    f.enter name

/-- The place that a path names, whether something stands there or not. -/
def resolve (d : Directory) (path : String) : Except OsError Place := do
  checkPath path
  let start ← d.start path
  let folder ← (Path.folders path).foldlM d.step start
  match Path.last? path with
  | none => pure folder.place
  | some name =>
      checkName name
      pure (folder.place ++ [name])

/-- What is lacking for something to be put at a place, if anything. -/
def denial? (d : Directory) (place : Place) (entry : Entry) : Option Denial :=
  if (d.find? place).any Entry.isLocked then some .permission else d.denies place entry

/-- Puts something at a place, unless that is denied. -/
def put (d : Directory) (place : Place) (entry : Entry) : Except OsError Directory :=
  match d.denial? place entry with
  | some lacking => .error (.denied lacking)
  | none => .ok (d.insert place entry)

/-! ## Operations -/

/-- What stands at a path. -/
def entryAt (d : Directory) (path : String) : Except OsError Entry := do
  match d.find? (← d.resolve path) with
  | none => .error .notFound
  | some entry =>
      if Path.endsInSlash path && !entry.isFolder then .error .notDirectory else .ok entry

/-- What stands at a path, if anything can be found there. -/
def look (d : Directory) (path : String) : Option Entry := (d.entryAt path).toOption

/-- Whether something stands at a path. -/
def «exists» (d : Directory) (path : String) : Bool := (d.look path).isSome

/-- Whether a folder stands at a path. -/
def isFolder (d : Directory) (path : String) : Bool := (d.look path).any Entry.isFolder

/-- The text of a file. -/
def read (d : Directory) (path : String) : Except OsError String := do
  match ← d.entryAt path with
  | .folder _ => .error .isDirectory
  | .text content => .ok content
  | .binary _ => .error .notText
  | .locked => .error (.denied .permission)

/-- Puts a file at a path, in the stead of a file of that name. -/
def putFile (d : Directory) (path : String) (file : Entry) : Except OsError Directory := do
  let place ← d.resolve path
  if (d.find? place).any Entry.isFolder || Path.endsInSlash path then .error .isDirectory
  else d.put place file

/-- Writes a file, in the stead of a file of that name. -/
def write (d : Directory) (path content : String) : Except OsError Directory :=
  d.putFile path (.text content)

/-! ## Making folders -/

/-- Makes a folder in a folder that exists. -/
def makeFolder (d : Directory) (path : String) : Except OsError Directory := do
  let place ← d.resolve path
  match d.find? place with
  | none => d.put place (.folder [])
  | some _ => .error .alreadyExists

/-- Makes a folder in a folder that exists, unless it is there. -/
def ensureFolder (d : Directory) (path : String) : Except OsError Directory :=
  match d.makeFolder path with
  | .error .alreadyExists => if d.isFolder path then .ok d else .error .alreadyExists
  | result => result

/-- Makes sure of the first of some folders for which that can be done, where the longest path
comes first. The others are given back with the directory, the shortest first. -/
def ensureFirst (d : Directory) (missing : List String) :
    List String → Except OsError (Directory × List String)
  | [] => .ok (d, missing)
  | path :: shorter =>
      match d.ensureFolder path with
      | .ok d => .ok (d, missing)
      | .error .notFound => d.ensureFirst (path :: missing) shorter
      | .error cause => .error cause

/-- Makes sure of some folders in turn, up to the first that is refused. -/
def ensureEach (d : Directory) : List String → Except OsError Unit × Directory
  | [] => (.ok (), d)
  | path :: longer =>
      match d.ensureFolder path with
      | .ok d => d.ensureEach longer
      | .error cause => (.error cause, d)

/-- Makes a folder and the folders on the way to it. A path without names asks for none. -/
def makeFolders (d : Directory) (path : String) : Except OsError Unit × Directory :=
  match d.ensureFirst [] (Path.ancestors path) with
  | .error cause => (.error cause, d)
  | .ok (d, missing) => d.ensureEach missing

end Directory

end Scaffolder
