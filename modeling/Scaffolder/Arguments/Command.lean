/-!
# Commands

What a command line may hold, as data: a command has options, switches and subcommands, and texts
for its help page.

- `Argument` is an option, a switch, or the place that takes all remaining arguments.
- `Command` is a command with its arguments and subcommands.
-/

namespace Scaffolder

/-- The form of an argument on the command line. -/
inductive ArgumentKind where
  /-- A long name followed by a value. -/
  | option (long : String)
  /-- A long name alone. -/
  | switch (long : String)
  /-- All arguments from the first on that is not taken otherwise, whatever they look like. -/
  | rest
  deriving DecidableEq, Repr, Inhabited

/-- An argument of a command. -/
structure Argument where
  /-- What its values are looked up under. -/
  id : String
  /-- Its form. -/
  kind : ArgumentKind
  /-- Whether it has to be given. -/
  required : Bool := false
  /-- Whether subcommands know it too. -/
  global : Bool := false
  /-- What the help page calls its value. -/
  valueNames : Option (List String) := none
  /-- Its values where none is given. -/
  defaults : List String := []
  /-- What the help page says about it. -/
  help : Option String := none
  deriving DecidableEq, Repr, Inhabited

namespace Argument

/-- The long name of an argument, if it has one. -/
def long? (a : Argument) : Option String :=
  match a.kind with
  | .option long => some long
  | .switch long => some long
  | .rest => none

/-- Whether values belong to an argument. -/
def takesValue (a : Argument) : Bool :=
  match a.kind with
  | .switch _ => false
  | _ => true

end Argument

/-- A command. -/
structure Command where
  /-- The name. -/
  name : String
  /-- What the help page says first. -/
  about : Option String := none
  /-- What the long help page says first. -/
  longAbout : Option String := none
  /-- What the help page says last. -/
  afterHelp : Option String := none
  /-- Whether a subcommand has to be given. A command that is given nothing at all then shows its
  help page. -/
  needsSubcommand : Bool := false
  /-- Whether the command has a help flag. -/
  helpFlag : Bool := true
  /-- The arguments, in the order in which they were added. -/
  arguments : List Argument := []
  /-- The subcommands, in the order in which they were added. -/
  subcommands : List Command := []
  deriving Inhabited

namespace Command

/-- The command with a further subcommand. -/
def addSubcommand (c sub : Command) : Command :=
  { c with subcommands := c.subcommands ++ [sub] }

/-- The names of the subcommands. -/
def subcommandNames (c : Command) : List String := c.subcommands.map Command.name

/-- The subcommand of a name. -/
def subcommand? (c : Command) (name : String) : Option Command :=
  c.subcommands.find? fun sub => sub.name = name

end Command

end Scaffolder
