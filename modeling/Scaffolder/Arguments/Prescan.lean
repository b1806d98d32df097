import Scaffolder.ProjectVersion
import Scaffolder.Text.Blank
import Scaffolder.Text.Cut
import Scaffolder.Text.Quoted
import Scaffolder.Text.Utf8

/-!
# A first look at the arguments

Before the commands are known, a few flags decide which plugin is used. The first look finds them
in any argument list, whatever else is in it, and refuses none.

The argument list is cut into items: a flag that takes a value takes the next argument whatever it
is, every other argument is an item of its own, and `--` ends the list (`PrescanItem.cut`). Each
item then changes what is known so far (`Prescan.step`).
-/

namespace Scaffolder

open Text (RawText)

/-- The two flags that take a value. -/
inductive ValueFlag where
  /-- The project version. -/
  | projectVersion
  /-- The plugin key. -/
  | plugins
  deriving DecidableEq, Repr

/-- The long name of a flag that takes a value. -/
def ValueFlag.long : ValueFlag → String
  | .projectVersion => "project-version"
  | .plugins => "plugins"

/-- What the first look tells apart in an argument list. -/
inductive PrescanItem where
  /-- A flag with its value; at the end of the list the value may be missing. -/
  | valued (flag : ValueFlag) (value : Option String)
  /-- A flag that asks for help, or says that none is asked for. -/
  | help (wanted : Bool)
  /-- A help flag with a value that is no truth value. -/
  | oddHelp
  /-- Anything else. -/
  | other
  deriving DecidableEq, Repr

namespace PrescanItem

/-- Whether an argument is a dash and ASCII letters with an `h` among them. -/
def isShortHelp : List Char → Bool
  | '-' :: letters => letters.all Char.isAlpha && letters.contains 'h'
  | _ => false

/-- The name and the value of an argument that starts with two dashes. -/
def longParts? : List Char → Option (List Char × Option String)
  | '-' :: '-' :: cs =>
      match Text.cutAt '=' cs with
      | some (name, value) => some (name, some (String.ofList value))
      | none => some (cs, none)
  | _ => none

/-- The flag of a name. -/
def flagNamed? (name : List Char) : Option ValueFlag :=
  if name = ValueFlag.projectVersion.long.toList then some .projectVersion
  else if name = ValueFlag.plugins.long.toList then some .plugins
  else none

/-- The item of a help flag with a value, or without. -/
def ofHelp : Option String → PrescanItem
  | none => .help true
  | some value =>
      if value = "true" then .help true
      else if value = "false" then .help false
      else .oddHelp

/-- What an argument is: an item, or a flag whose value is the next argument. -/
def classify (cs : List Char) : PrescanItem ⊕ ValueFlag :=
  if isShortHelp cs then .inl (.help true)
  else
    match longParts? cs with
    | none => .inl .other
    | some (name, value) =>
        if name = "help".toList then .inl (ofHelp value)
        else
          match flagNamed? name, value with
          | none, _ => .inl .other
          | some flag, some value => .inl (.valued flag (some value))
          | some flag, none => .inr flag

/-- The items of an argument list. -/
def cut : List (List Char) → List PrescanItem
  | [] => []
  | arg :: rest =>
      if arg = ['-', '-'] then []
      else
        match classify arg, rest with
        | .inl item, rest => item :: cut rest
        | .inr flag, [] => [.valued flag none]
        | .inr flag, value :: rest => .valued flag (some (String.ofList value)) :: cut rest

end PrescanItem

/-- What the first look finds. -/
structure Prescan where
  /-- The project version that is asked for, if one is. -/
  requested : Option ProjectVersion := none
  /-- The plugin key, as written. -/
  rawKey : String := ""
  /-- Whether help is asked for. -/
  help : Bool := false
  /-- Whether a flag is not written as it has to be. -/
  malformed : Bool := false
  deriving DecidableEq, Repr

namespace Prescan

/-- What an item adds. Later items win; a flag once malformed stays so. -/
def step (p : Prescan) : PrescanItem → Prescan
  | .valued .projectVersion (some v) => { p with requested := some ⟨v⟩ }
  | .valued .plugins (some key) => { p with rawKey := key }
  | .valued _ none => { p with malformed := true }
  | .help wanted => { p with help := wanted }
  | .oddHelp => { p with malformed := true }
  | .other => p

/-- What a first look finds in the arguments after the program's name. -/
def ofArguments (args : List RawText) : Prescan :=
  (PrescanItem.cut (args.map RawText.lossyChars)).foldl step {}

/-- What a first look finds in an argument list, whose first argument is the program's name. -/
def scan (argv : List RawText) : Prescan := ofArguments argv.tail

/-- The project version to go by. -/
def version (p : Prescan) (default : ProjectVersion) : ProjectVersion := p.requested.getD default

/-- Whether a project version is asked for. -/
def versionSet (p : Prescan) : Bool := p.requested.isSome

/-- The plugin key, without the blanks around it. -/
def key (p : Prescan) : String := Text.trim p.rawKey

/-- Whether the help to show does not depend on a plugin. -/
def genericHelp (p : Prescan) : Bool := p.malformed || (p.help && !p.versionSet)

/-- The description of what was found. -/
def describe (p : Prescan) (default : ProjectVersion) : String :=
  Text.showRecord "PreScan"
    [("project_version", "ProjectVersion(" ++ Text.quoted (p.version default).text ++ ")"),
      ("project_version_set", Text.showBool p.versionSet),
      ("cli_plugin_key", Text.quoted p.key),
      ("help", Text.showBool p.help),
      ("generic_help", Text.showBool p.genericHelp)]

end Prescan

end Scaffolder
