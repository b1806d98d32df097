import Scaffolder.Bootstrap
import Scaffolder.GoLayout
import Scaffolder.Log.Filter

/-!
# The program

The program as it ships: the built-in layouts, the older one as the default, and a command that
prints the version.

- `Program.run` is a whole run as a function: from the directory, the arguments and the log filter
  to what is printed, the exit code and the directory afterwards.
-/

namespace Scaffolder

namespace ExtraCommand

/-- The version of this program. -/
def programVersion : String := "0.1.0"

/-- The command that prints the version of a program. -/
def version (name : String) : ExtraCommand where
  command := { name := "version", about := some ("Print the " ++ name ++ " version") }
  run _ d := { directory := d, output := name ++ " version " ++ programVersion ++ "\n" }

end ExtraCommand

/-- What a run leaves behind. -/
structure ProcessResult where
  /-- The exit code. -/
  exitCode : Nat
  /-- What was printed. A help page is not part of it. -/
  output : String := ""
  /-- Why the run failed, if it did. -/
  failure : Option String := none
  /-- Why the arguments were not accepted, if they were not. -/
  usage : Option UsageError := none
  /-- Whether the help page of the root command is shown. -/
  showsHelp : Bool := false
  /-- What was logged and is shown. -/
  log : List LogEvent
  /-- The directory afterwards. -/
  directory : Directory

namespace ProcessResult

/-- What is written where errors go, apart from the log. -/
def errorText (r : ProcessResult) : String :=
  match r.failure with
  | some message => "Error: " ++ message ++ "\n"
  | none => ""

end ProcessResult

namespace Program

/-- The batches of plugins that ship. -/
def batches : List Batch :=
  [⟨[GoLayout.v2, GoLayout.v3Alpha], false⟩, ⟨[GoLayout.v2], true⟩]

/-- The host as it ships. -/
def host : Host where
  batches := batches
  extras := [ExtraCommand.version "scaffold"]

/-- What a run leaves behind whose arguments are matched. -/
def conclude (d : Directory) (notices : String) (log : List LogEvent) :
    CommandTree.RunResult → ProcessResult
  | .usage e =>
      { exitCode := e.exitCode, output := notices, usage := some e, log, directory := d }
  | .help => { exitCode := 0, output := notices, showsHelp := true, log, directory := d }
  | .finished o =>
      { exitCode := if o.failure.isSome then 1 else 0
        output := notices ++ o.output
        failure := o.failure.map Failure.message
        log := log ++ o.log
        directory := o.directory }

/-- What a run of a host leaves behind, with everything that was logged. -/
def runHost (h : Host) (d : Directory) (argv : List Text.RawText) : ProcessResult :=
  let log := h.bootstrapLog d argv
  match h.bootstrap d argv with
  | .error e => { exitCode := 1, failure := some e.message, log, directory := d }
  | .ok s => conclude d s.notices log (s.run d)

/-- A whole run of the program. -/
def run (d : Directory) (argv : List Text.RawText) (filter : Option String) : ProcessResult :=
  let result := runHost host d argv
  { result with log := result.log.filter (LogFilter.ofSetting filter).shows }

end Program

end Scaffolder
