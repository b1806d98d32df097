/-!
# Matched arguments

What comes of matching an argument list against a command: the commands that were named with the
values of their arguments, or the reason why the list is not accepted.
-/

namespace Scaffolder

/-- Why an argument list is not accepted. -/
inductive UsageError where
  /-- Help is asked for. -/
  | displayHelp
  /-- Nothing is given where a subcommand is needed. -/
  | helpForMissingSubcommand
  /-- Something is given, but not the subcommand that is needed. -/
  | missingSubcommand
  /-- There is no such subcommand. -/
  | invalidSubcommand
  /-- There is no such argument. -/
  | unknownArgument
  /-- An argument that is needed is missing. -/
  | missingRequiredArgument
  /-- An option has no value. -/
  | invalidValue
  /-- A switch has a value. -/
  | tooManyValues
  /-- An argument is given twice. -/
  | argumentConflict
  /-- A value is not text. -/
  | invalidUtf8
  deriving DecidableEq, Repr

/-- The exit code of a run whose argument list is not accepted. Only a help page that was asked
for is a success. -/
def UsageError.exitCode : UsageError → Nat
  | .displayHelp => 0
  | _ => 2

/-- A command that was named, with what it was given. -/
structure MatchedCommand where
  /-- The name of the command. -/
  name : String
  /-- The values given for each argument, under its id. A switch that is given has no values. -/
  given : List (String × List String)
  deriving DecidableEq, Repr, Inhabited

namespace MatchedCommand

/-- The value given for an option. -/
def value? (m : MatchedCommand) (id : String) : Option String :=
  (m.given.lookup id).bind List.head?

/-- Whether an argument is given. -/
def has (m : MatchedCommand) (id : String) : Bool := (m.given.lookup id).isSome

/-- All values given for an argument. -/
def values (m : MatchedCommand) (id : String) : List String := (m.given.lookup id).getD []

/-- The command with these values for an argument, in the stead of what it was given for it. -/
def give (m : MatchedCommand) (id : String) (values : List String) : MatchedCommand :=
  { m with given := (id, values) :: m.given.filter fun g => g.1 ≠ id }

end MatchedCommand

end Scaffolder
