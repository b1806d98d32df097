/-!
# Refusals of the operating system

Why an operation on files is not done, and how the operating system words it.
-/

namespace Scaffolder

/-- What an operation lacks that could be done otherwise. -/
inductive Denial where
  /-- The permission to do it. -/
  | permission
  /-- The space for the file. -/
  | space
  /-- A file system that can be written to. -/
  | writableSystem
  deriving DecidableEq, Repr

/-- The wording of what is lacking. -/
def Denial.message : Denial → String
  | .permission => "Permission denied (os error 13)"
  | .space => "No space left on device (os error 28)"
  | .writableSystem => "Read-only file system (os error 30)"

/-- Why the operating system refuses an operation. -/
inductive OsError where
  /-- A name on the path does not exist. -/
  | notFound
  /-- The name is taken. -/
  | alreadyExists
  /-- A name on the path is a file where a folder is needed. -/
  | notDirectory
  /-- The name is a folder where a file is needed. -/
  | isDirectory
  /-- A name has more than 255 bytes, or the path more than 4095. -/
  | nameTooLong
  /-- The path holds the character that ends paths. -/
  | nulInName
  /-- The file is not text. -/
  | notText
  /-- The operation lacks something. -/
  | denied (lacking : Denial)
  deriving DecidableEq, Repr

namespace OsError

/-- The wording of a refusal. -/
def message : OsError → String
  | .notFound => "No such file or directory (os error 2)"
  | .alreadyExists => "File exists (os error 17)"
  | .notDirectory => "Not a directory (os error 20)"
  | .isDirectory => "Is a directory (os error 21)"
  | .nameTooLong => "File name too long (os error 36)"
  | .nulInName => "file name contained an unexpected NUL byte"
  | .notText => "stream did not contain valid UTF-8"
  | .denied lacking => lacking.message

end OsError

end Scaffolder
