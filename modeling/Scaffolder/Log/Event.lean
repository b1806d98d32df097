/-!
# Log events

What a run tells about its decisions. An event has a severity, the part of the program it comes
from, a message and some fields; as a line it reads `LEVEL message field=value …`.
-/

namespace Scaffolder

/-- How severe an event is. -/
inductive Severity where
  /-- Something failed. -/
  | error
  /-- Something should not be as it is. -/
  | warn
  /-- Something was done. -/
  | info
  /-- Something was decided. -/
  | debug
  /-- Anything else. -/
  | trace
  deriving DecidableEq, Repr, Inhabited

namespace Severity

/-- Severities by number; the more severe, the smaller. -/
def rank : Severity → Nat
  | .error => 1
  | .warn => 2
  | .info => 3
  | .debug => 4
  | .trace => 5

/-- The name of a severity. -/
def name : Severity → String
  | .error => "ERROR"
  | .warn => "WARN"
  | .info => "INFO"
  | .debug => "DEBUG"
  | .trace => "TRACE"

end Severity

/-- The part of the program that an event comes from. -/
inductive LogSource where
  /-- What happens before the commands are known. -/
  | bootstrap
  /-- The selection of plugins. -/
  | selection
  /-- The choice of a command's handler. -/
  | dispatch
  /-- The built-in layouts. -/
  | layout
  deriving DecidableEq, Repr

/-- The name that log filters know a source by. -/
def LogSource.target : LogSource → String
  | .bootstrap => "scaffold_cli::cli::bootstrap"
  | .selection => "scaffold_cli::resolve::engine"
  | .dispatch => "scaffold_cli::cli::tree"
  | .layout => "scaffold_cli::plugin::golang"

/-- An event. -/
structure LogEvent where
  /-- How severe it is. -/
  severity : Severity
  /-- Where it comes from. -/
  source : LogSource
  /-- What happened. -/
  message : String
  /-- The fields with their values, as shown. -/
  fields : List (String × String) := []
  deriving DecidableEq, Repr

namespace LogEvent

/-- The names of the fields that an event has for a filter. The message is one of them. -/
def fieldNames (e : LogEvent) : List String := "message" :: e.fields.map Prod.fst

/-- The line of an event. -/
def line (e : LogEvent) : String :=
  e.severity.name ++ " " ++ e.message
    ++ String.join (e.fields.map fun f => " " ++ f.1 ++ "=" ++ f.2)

end LogEvent

end Scaffolder
