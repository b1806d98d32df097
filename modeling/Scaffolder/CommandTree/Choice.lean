import Scaffolder.CommandTree.Basic

/-!
# The choice of a handler

Which handler matched arguments ask for, and what comes of running it.

- `CommandTree.choose` picks the handler. The commands of the host come first.
- `CommandTree.run` matches an argument list and runs the handler that it asks for.
-/

namespace Scaffolder

namespace CommandTree

/-! ## Choosing a handler -/

/-- What matched arguments ask for. -/
inductive Choice where
  /-- The help page of the root command. -/
  | help
  /-- A command of the host. -/
  | extra (command : ExtraCommand) (arguments : MatchedCommand)
  /-- A subcommand that the tree has a place for, as a plugin provides it. -/
  | provided (label : String) (plugin : Plugin) (subcommand : Subcommand)
      (arguments : MatchedCommand)
  /-- A named subcommand, as a plugin provides it. -/
  | named (label : String) (plugin : Plugin) (subcommand : Subcommand) (arguments : MatchedCommand)
  /-- Nothing that there is a handler for. -/
  | refused (reason : String)

/-- What a user is told who asks for a subcommand that no plugin provides. -/
def unavailable (t : CommandTree) (label : String) : String :=
  if t.generic then "'" ++ label ++ "' needs a resolved plugin. " ++ runInProjectMessage
  else "no resolved plugin provides '" ++ label ++ "'"

/-- The choice of a subcommand that the tree has a place for. The plugin behind it is asked for the
subcommand once more. -/
def chooseProvided (t : CommandTree) (label : String) (kind : SubcommandKind)
    (arguments : MatchedCommand) : Choice :=
  match t.provider kind with
  | none => .refused (t.unavailable label)
  | some p =>
      match p.subcommand kind with
      | none => .refused (t.unavailable label)
      | some s => .provided label p s arguments

/-- The choice of a named subcommand. The plugin behind it is asked for the subcommand once more,
and the first that it has under the name counts. -/
def chooseNamed (t : CommandTree) (name : String) (arguments : MatchedCommand) : Choice :=
  let label := "alpha " ++ name
  match t.alpha.lookup name with
  | none => .refused (t.unavailable label)
  | some p =>
      match p.alpha.lookup name with
      | none => .refused (t.unavailable label)
      | some s => .named label p s arguments

/-- What the commands named after the root command ask for. -/
def choose (t : CommandTree) : List MatchedCommand → Choice
  | [] => .help
  | m :: below =>
      match t.extras.find? fun e => e.command.name = m.name with
      | some e => .extra e m
      | none =>
          match m.name, below with
          | "init", _ => t.chooseProvided "init" .init m
          | "create", leaf :: _ =>
              if leaf.name = "api" then t.chooseProvided "create api" .createApi leaf
              else if leaf.name = "webhook" then
                t.chooseProvided "create webhook" .createWebhook leaf
              else .refused ("unknown command '" ++ m.name ++ "'")
          | "alpha", leaf :: _ => t.chooseNamed leaf.name leaf
          | name, _ => .refused ("unknown command '" ++ name ++ "'")

/-! ## Running -/

/-- How a run of the tree ends. -/
inductive RunResult where
  /-- The argument list is not accepted, or asks for help. -/
  | usage (error : UsageError)
  /-- No subcommand was given, so the help page is shown. -/
  | help
  /-- A handler ran, or none was there to run. -/
  | finished (outcome : Outcome)

/-- The event of a handler that is run. -/
def runEvent (label : String) (p : Plugin) : LogEvent :=
  ⟨.debug, .dispatch, "running plugin subcommand",
    [("command", Text.quoted label), ("plugin", p.keyText)]⟩

/-- Runs what was chosen. `about` gives a plugin's handler what it knows about the run. -/
def perform (about : Plugin → Invocation) (d : Directory) : Choice → RunResult
  | .help => .help
  | .extra e m => .finished (e.run m d)
  | .provided label p s m =>
      let outcome := s.run (about p) m d
      .finished { outcome with log := runEvent label p :: outcome.log }
  | .named _ p s m => .finished (s.run (about p) m d)
  | .refused reason => .finished (.fail d (.refused reason))

/-- Matches the arguments after the program's name and runs the handler that they ask for. -/
def run (t : CommandTree) (args : List Text.RawText) (about : Plugin → Invocation)
    (d : Directory) : RunResult :=
  match t.root.matches args with
  | .error e => .usage e
  | .ok levels => perform about d (t.choose levels.tail)

end CommandTree

end Scaffolder
