import Scaffolder.Arguments.Command
import Scaffolder.Arguments.Look
import Scaffolder.Arguments.MatchedCommand

/-!
# Matching arguments against a command

What an argument list says, given the command it is for. The arguments are read from left to
right; the name of a subcommand hands over to that subcommand, which reads all that follows.

- `Command.matches` gives the commands that were named, each with the values of its arguments, or
  says why the argument list is not accepted (`UsageError`). A request for help is such a reason.
- An option takes the argument after it as its value unless that one looks like a flag. Two
  values for one option at one command are refused.
- After `--` no argument is a flag or the name of a subcommand.
- A global argument that is given to one of the commands counts as given to all of them. Where it
  is given to several, the values at the innermost hold.
-/

namespace Scaffolder

open Text (Glyph RawText)

namespace Arguments

/-- The name of the subcommand and of the flag that show help. -/
def helpName : String := "help"

/-- The letter of the flag that shows help. -/
def helpLetter : Char := 'h'

/-! ## Reading the arguments of one command -/

/-- What is read of the arguments of one command. -/
structure Progress where
  /-- The values stored so far. -/
  given : List (String × List String) := []
  /-- The argument whose values are being collected, with those values. -/
  pending : Option (Argument × List RawText) := none
  /-- Whether that argument still waits for a value. -/
  awaiting : Bool := false
  /-- Whether flags and subcommands are no longer looked for. -/
  trailing : Bool := false

namespace Progress

/-- Stores the values of an argument. -/
def store (arg : Argument) (values : List RawText) (p : Progress) :
    Except UsageError Progress :=
  if arg.takesValue && values.isEmpty then .error .invalidValue
  else if (p.given.lookup arg.id).isSome then .error .argumentConflict
  else
    match values.mapM RawText.text? with
    | none => .error .invalidUtf8
    | some texts => .ok { p with given := p.given ++ [(arg.id, texts)] }

/-- Stores what was being collected. -/
def settle (p : Progress) : Except UsageError Progress :=
  match p.pending with
  | none => .ok { p with awaiting := false }
  | some (arg, values) => store arg values { p with pending := none, awaiting := false }

/-- Adds a value to what is being collected. -/
def collect (arg : Argument) (value : RawText) (p : Progress) : Progress :=
  let before :=
    match p.pending with
    | some (_, values) => values
    | none => []
  { p with pending := some (arg, before ++ [value]), awaiting := false }

end Progress

/-- The error of the commands that are given help: whatever was being collected is checked
first. -/
def helpError {α : Type} (p : Progress) : Except UsageError α := do
  let _ ← p.settle
  throw .displayHelp

/-- The arguments that a command knows: those of the commands around it that are global, and its
own. -/
def known (inherited : List Argument) (c : Command) : List Argument := c.arguments ++ inherited

/-- The argument of a long name. -/
def findLong (args : List Argument) (name : RawText) : Option Argument :=
  name.text?.bind fun name => args.find? fun a => a.long? = some name

/-- The argument that takes all remaining arguments. -/
def restOf (args : List Argument) : Option Argument :=
  args.find? fun a => a.kind = .rest

/-- What follows from an argument that is looked at for a flag. -/
inductive FlagOutcome where
  /-- It is a flag and has been dealt with. -/
  | done (p : Progress)
  /-- It is a value. -/
  | notAFlag

/-- Deals with an argument that looks like a long flag. -/
def longFlag (args : List Argument) (c : Command) (name : RawText) (value : Option RawText)
    (p : Progress) : Except UsageError FlagOutcome :=
  match findLong args name with
  | some arg =>
      match arg.takesValue, value with
      | true, some value => do
          let p ← p.settle
          return .done (← p.store arg [value])
      | true, none => do
          let p ← p.settle
          return .done { p with pending := some (arg, []), awaiting := true }
      | false, some _ => .error .tooManyValues
      | false, none => do
          let p ← p.settle
          return .done (← p.store arg [])
  | none =>
      if c.helpFlag && name = RawText.ofString helpName then
        if value.isSome then .error .tooManyValues else helpError p
      else if name.text?.isSome && (restOf args).isSome then .ok .notAFlag
      else .error .unknownArgument

/-- Whether a glyph is a short flag of a command. The flag that shows help is the only one. -/
def isShortFlag (c : Command) (g : Glyph) : Bool := c.helpFlag && g = .char helpLetter

/-- Deals with an argument that looks like a cluster of short flags. Where an argument takes all
that remains, a cluster that is not made of flags alone is a value. -/
def shortFlag (args : List Argument) (c : Command) (first : Glyph) (others : RawText)
    (p : Progress) : Except UsageError FlagOutcome :=
  if (restOf args).isSome && !(first :: others).all (isShortFlag c) then .ok .notAFlag
  else if isShortFlag c first then helpError p
  else .error .unknownArgument

/-- The error of an argument that nothing takes. -/
def strayError (c : Command) (arg : RawText) (trailing : Bool) : UsageError :=
  let namesSubcommand := arg.text?.any fun s =>
    !c.subcommands.isEmpty && (s = helpName || (c.subcommand? s).isSome)
  if trailing && namesSubcommand then .unknownArgument
  else if c.subcommands.isEmpty then .unknownArgument
  else .invalidSubcommand

/-- Deals with an argument that is neither a flag nor a subcommand. -/
def positional (args : List Argument) (c : Command) (arg : RawText) (p : Progress) :
    Except UsageError Progress :=
  match restOf args with
  | none => .error (strayError c arg p.trailing)
  | some rest => do
      let p ← if p.pending.any fun q => q.1.id = rest.id then pure p else p.settle
      pure (p.collect rest arg |> fun p => { p with trailing := true })

/-- Follows the names after the help subcommand. They have to name a command. -/
def helpOn (c : Command) : List RawText → UsageError
  | [] => .displayHelp
  | arg :: rest =>
      match arg.text? with
      | none => .invalidSubcommand
      | some s =>
          if !c.subcommands.isEmpty && s = helpName then
            if rest.isEmpty then .displayHelp else .invalidSubcommand
          else
            match c.subcommand? s with
            | some sub => helpOn sub rest
            | none => .invalidSubcommand

/-- Ends the reading of a command's arguments. -/
def finish (args : List Argument) (c : Command) (hasSubcommand : Bool) (p : Progress) :
    Except UsageError MatchedCommand := do
  let p ← p.settle
  if c.needsSubcommand && !hasSubcommand then
    throw (if p.given.isEmpty then .helpForMissingSubcommand else .missingSubcommand)
  if args.any fun a => a.required && (p.given.lookup a.id).isNone then
    throw .missingRequiredArgument
  pure ⟨c.name, p.given⟩

/-- Reads the arguments of a command. `inherited` holds the global arguments of the commands
around it. -/
def matchFrom (inherited : List Argument) (c : Command) (p : Progress) :
    List RawText → Except UsageError (List MatchedCommand)
  | [] => do
      let m ← finish (known inherited c) c false p
      pure [m]
  | arg :: rest =>
      let args := known inherited c
      let subcommand :=
        if p.trailing || p.awaiting then none
        else arg.text?.bind fun s => c.subcommand? s
      let asksHelp := !p.trailing && !p.awaiting && !c.subcommands.isEmpty
        && arg = RawText.ofString helpName
      if asksHelp then .error (helpOn c rest)
      else
        match subcommand with
        | some sub => do
            let below ← matchFrom (args.filter Argument.global) sub {} rest
            let m ← finish args c true p
            pure (m :: below)
        | none => do
            let outcome ←
              if p.trailing then pure .notAFlag
              else
                match look arg with
                | .dashes => pure (.done { p with trailing := true })
                | .long name value => longFlag args c name value p
                | .short first others => shortFlag args c first others p
                | .plain => pure .notAFlag
            match outcome with
            | .done p => matchFrom inherited c p rest
            | .notAFlag =>
                match p.trailing, p.awaiting, p.pending with
                | false, true, some (option, _) =>
                    matchFrom inherited c (p.collect option arg) rest
                | _, _, _ => do
                    let p ← positional args c arg p
                    matchFrom inherited c p rest

/-! ## Global arguments -/

/-- The global arguments of a command and of the commands named below it. -/
def globals (c : Command) : List MatchedCommand → List Argument
  | [] => c.arguments.filter Argument.global
  | m :: below =>
      c.arguments.filter Argument.global ++
        match c.subcommand? m.name with
        | some sub => globals sub below
        | none => []

/-- The values given for an argument at the innermost command where it is given. -/
def innermost? (levels : List MatchedCommand) (id : String) : Option (List String) :=
  levels.reverse.findSome? fun m => m.given.lookup id

/-- Gives the innermost values of an argument to all commands. -/
def share (levels : List MatchedCommand) (id : String) : List MatchedCommand :=
  match innermost? levels id with
  | none => levels
  | some values => levels.map fun m => m.give id values

end Arguments

/-- The commands that an argument list names, the outermost first, with what each is given. -/
def Command.matches (c : Command) (args : List RawText) :
    Except UsageError (List MatchedCommand) := do
  let levels ← Arguments.matchFrom [] c {} args
  pure (((Arguments.globals c levels.tail).map Argument.id).foldl Arguments.share levels)

end Scaffolder
