import Scaffolder.Program

/-!
# The command line

The program on a real directory. The project file of the working directory is read before the run
and written after it if the run changed it; all else is `Program.run`.
-/

namespace Scaffolder

/-- The variable that holds the log filter. -/
def logVariable : String := "SCAFFOLD_LOG"

/-- What stands where the project file belongs. -/
def readEntry : IO (Option Entry) := do
  try
    let bytes ← IO.FS.readBinFile ConfigFile.fileName
    pure (some (Entry.ofBytes bytes.toList))
  catch
    | .noFileOrDirectory _ _ _ => pure none
    | .permissionDenied _ _ _ => pure (some .locked)
    | _ => pure (some (.folder []))

/-- The working directory, as far as a run looks at it. -/
def readDirectory : IO Directory := do
  match ← readEntry with
  | some entry => pure { children := [(ConfigFile.fileName, entry)] }
  | none => pure {}

/-- The text of the project file, if it is one. -/
def projectText? (d : Directory) : Option String := (d.read ConfigFile.fileName).toOption

/-- Writes the project file if the run changed it. -/
def writeChanges (before after : Directory) : IO Unit := do
  if let some content := projectText? after then
    if projectText? before ≠ some content then
      IO.FS.writeFile ConfigFile.fileName content

/-- The line that stands for the help pages. -/
def usageLine : String := "Usage: " ++ Program.host.commandName ++ " [OPTIONS] [COMMAND]"

/-- Runs the program in the working directory, and gives back the exit code. -/
def runInWorkingDirectory (args : List String) : IO UInt32 := do
  let before ← readDirectory
  let argv := (Program.host.commandName :: args).map Text.RawText.ofString
  let result := Program.run before argv (← IO.getEnv logVariable)
  for event in result.log do
    IO.eprintln event.line
  writeChanges before result.directory
  IO.print result.output
  if result.exitCode = 2 then IO.eprintln usageLine
  else if result.showsHelp || result.usage.isSome then IO.println usageLine
  IO.eprint result.errorText
  pure (UInt32.ofNat result.exitCode)

end Scaffolder

/-- The entry point. -/
def main (args : List String) : IO UInt32 :=
  Scaffolder.runInWorkingDirectory args
