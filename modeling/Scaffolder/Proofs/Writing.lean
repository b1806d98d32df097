import Scaffolder.Proofs.Directory.Folders
import Scaffolder.Proofs.Reopening

/-!
# What writes the project file

A run changes the project file only by a handler of a built-in layout that succeeds.

* **Making a project** (`Project.keeps_init`): folders are made before the file is written, which is why it
  matters whether the path of the project goes up by two dots behind a name that does not exist
  (`Directory.Reaches`).
* **Handlers** (`look_handler`): a handler of a layout that fails leaves the project file alone. Each has
  one write, and what can fail comes before it. An `init` that fails replaces nothing, whatever the path
  (`keeps_runInit`).
* **Runs** (`look_runHost_cases`): whatever else a run ends with, it does not come to a handler of a
  layout. That the other plugins and the commands of the host do not write the file is an assumption
  (`Host.OthersKeepFile`).

`project_file_kept` puts these together. `project_file_lost` and `project_file_overwritten` show runs in
folders that are written with two dots behind a missing name.
-/

namespace Scaffolder

open Text (RawText)

/-! ## Making a project -/

/-- The name of the project file is a name in a folder. -/
theorem ConfigFile.isName_fileName : Path.IsName fileName :=
  ⟨by decide, by decide, by decide⟩

/-- The folders that are made for a project do not change what the path of its file leads to. -/
theorem Directory.Reaches.look_makeFolders_projectFile {d : Directory} {root : String}
    (reaches : d.Reaches root) :
    (d.makeFolders root).2.look (ConfigFile.path root) = d.look (ConfigFile.path root) :=
  reaches.look_makeFolders ConfigFile.isName_fileName

/-- **Making a project replaces nothing,** if its path reaches. If the project is not made, then nothing is
replaced whatever the path is. -/
theorem Project.keeps_init {d : Directory} {root : String} {c : Config}
    (h : d.Reaches root ∨ ∃ e, (init d root c).1 = .error e) : d.Keeps (init d root c).2 := by
  rcases init_cases d root c with ⟨_, hinit⟩ | ⟨_, e, hinit⟩ | ⟨habsent, d', hsave, hinit⟩
  · rw [hinit]
    exact .refl d
  · rw [hinit]
    exact d.keeps_makeFolders root
  · rw [hinit] at h ⊢
    rcases h with reaches | ⟨e, herror⟩
    · have nothing : (d.makeFolders root).2.look (ConfigFile.path root) = none := by
        rw [reaches.look_makeFolders_projectFile]
        exact Option.isSome_eq_false_iff.1 habsent |> Option.isNone_iff_eq_none.1
      have hwrite := ConfigFile.save_eq_ok_iff.1 (save_eq_ok_iff.1 hsave)
      exact (d.keeps_makeFolders root).trans (Directory.keeps_write nothing hwrite)
    · cases herror

/-! ## Handlers -/

namespace GoLayout

/-- The handlers of the layouts, by what they are asked for. -/
def handler : SubcommandKind → Invocation → MatchedCommand → Directory → Outcome
  | .init => runInit
  | .createApi => runCreateApi
  | .createWebhook => runCreateWebhook

/-- A layout has the handler of each subcommand with a place of its own. -/
theorem IsLayout.run_eq {p : Plugin} (h : IsLayout p) {kind : SubcommandKind} {c : Subcommand}
    (provided : p.subcommand kind = some c) : c.run = handler kind := by
  rw [h.subcommand_eq] at provided
  rw [← Option.some.inj provided]
  cases kind with
  | init => rfl
  | createApi => rfl
  | createWebhook => rfl

/-- **A handler that fails leaves the project file alone.** For `init` the path of the project has to
reach. -/
theorem look_handler {kind : SubcommandKind} {i : Invocation} {m : MatchedCommand} {d : Directory}
    (reaches : kind = .init → d.Reaches i.projectDir) (failed : (handler kind i m d).failure ≠ none) :
    (handler kind i m d).directory.look (ConfigFile.path i.projectDir) =
      d.look (ConfigFile.path i.projectDir) := by
  cases kind with
  | init =>
    change (runInit i m d).directory.look _ = _
    rcases directory_of_runInit_failed failed with hsame | hmade
    · rw [hsame]
    · rw [hmade]
      exact (reaches rfl).look_makeFolders_projectFile
  | createApi =>
    rcases runCreateApi_outcomes i m d with ⟨_, hsame⟩ | ⟨hok, _⟩
    · exact congrArg (·.look (ConfigFile.path i.projectDir)) hsame
    · exact absurd hok failed
  | createWebhook =>
    rcases runCreateWebhook_outcomes i m d with ⟨_, hsame⟩ | ⟨hok, _⟩
    · exact congrArg (·.look (ConfigFile.path i.projectDir)) hsame
    · exact absurd hok failed

/-- **An `init` that fails replaces nothing,** whatever the path of the project. And under the name of a
project file nothing appears, unless the path has that name itself. -/
theorem keeps_runInit {i : Invocation} {m : MatchedCommand} {d : Directory}
    (failed : (runInit i m d).failure ≠ none) :
    d.Keeps (runInit i m d).directory ∧ (ConfigFile.fileName ∉ Path.steps i.projectDir →
      ∀ folder, d.find? (folder ++ [ConfigFile.fileName]) = none →
        (runInit i m d).directory.find? (folder ++ [ConfigFile.fileName]) = none) := by
  rcases directory_of_runInit_failed failed with hsame | hmade
  · rw [hsame]
    exact ⟨.refl d, fun _ _ nothing => nothing⟩
  · rw [hmade]
    refine ⟨d.keeps_makeFolders _, fun notMem folder nothing => ?_⟩
    exact Directory.find?_makeFolders_of_notMem notMem nothing

end GoLayout

/-! ## Runs -/

namespace Host

/-- Whether nothing but the handlers of the built-in layouts changes what stands at the path of a host's
project file. -/
structure OthersKeepFile (h : Host) : Prop where
  /-- The commands of the host do not change it. -/
  extras : ∀ e ∈ h.extras, ∀ m d, (e.run m d).directory.look (ConfigFile.path h.projectDir) =
    d.look (ConfigFile.path h.projectDir)
  /-- The plugins do not change it, unless they are built-in layouts. -/
  plugins : ∀ b ∈ h.batches, ∀ p ∈ b.plugins, GoLayout.IsLayout p ∨
    ∀ c, p.Offers c → ∀ i m d, i.projectDir = h.projectDir →
      (c.run i m d).directory.look (ConfigFile.path h.projectDir) =
        d.look (ConfigFile.path h.projectDir)

/-- Whether a run asks for a subcommand of a built-in layout. -/
def AsksLayout (h : Host) (d : Directory) (argv : List RawText) (kind : SubcommandKind)
    (m : MatchedCommand) : Prop :=
  ∃ s p c, h.bootstrap d argv = .ok s ∧ s.choice? = some (.provided kind.label p c m) ∧
    GoLayout.IsLayout p

/-- Whether a run succeeds with a subcommand of a built-in layout. -/
def Succeeds (h : Host) (d : Directory) (argv : List RawText) (kind : SubcommandKind)
    (m : MatchedCommand) : Prop :=
  h.AsksLayout d argv kind m ∧ (Program.runHost h d argv).failure = none

/-- Subcommands with a place of their own are called differently. -/
theorem label_injective : Function.Injective SubcommandKind.label := by
  intro kind other h
  cases kind
  all_goals cases other
  all_goals first
    | rfl
    | exact absurd h (by decide)

variable {h : Host} {d : Directory} {argv : List RawText}

/-- **What a run comes to that asks for a subcommand of a layout** is what its handler comes to. -/
theorem AsksLayout.runHost_eq {kind : SubcommandKind} {m : MatchedCommand}
    (asks : h.AsksLayout d argv kind m) :
    ∃ i, i.projectDir = h.projectDir ∧
      (Program.runHost h d argv).directory = (GoLayout.handler kind i m d).directory ∧
      ((Program.runHost h d argv).failure = none ↔
        (GoLayout.handler kind i m d).failure = none) ∧
      (Program.runHost h d argv).usage = none ∧ (Program.runHost h d argv).showsHelp = false := by
  obtain ⟨s, p, c, started, chosen, layout⟩ := asks
  obtain ⟨_, kind', hlabel, hoffer⟩ := offered_of_provided started chosen
  obtain rfl := label_injective hlabel
  obtain ⟨_, _, _, _, _, _, hdir, _⟩ := bootstrap_eq_ok_iff.1 started
  refine ⟨s.invocation p, hdir, ?_⟩
  rw [← layout.run_eq hoffer, Program.runHost_of_bootstrap started, Session.run_of_choice? chosen]
  exact ⟨rfl, Option.map_eq_none_iff, rfl, rfl⟩

/-- **A run asks for a subcommand of a layout, or leaves the project file alone.** -/
theorem look_runHost_cases (others : h.OthersKeepFile) (d : Directory) (argv : List RawText) :
    (Program.runHost h d argv).directory.look (ConfigFile.path h.projectDir) =
        d.look (ConfigFile.path h.projectDir) ∨
      ∃ kind m, h.AsksLayout d argv kind m := by
  cases hb : h.bootstrap d argv with
  | error e =>
    rw [Program.directory_of_bootstrap_error hb]
    exact .inl rfl
  | ok s =>
    obtain ⟨r, registered, _, hselection, htree, _, hdir, _⟩ := bootstrap_eq_ok_iff.1 hb
    obtain ⟨hprovider, halpha, hextras⟩ := CommandTree.of_build (tree_eq_ok_iff.1 htree)
    rw [Program.runHost_of_bootstrap hb]
    cases hc : s.choice? with
    | none =>
      obtain ⟨e, hrun⟩ := Session.run_of_no_choice hc d
      rw [hrun]
      exact .inl rfl
    | some c =>
      have hof := Session.choice?_isOf hc
      rw [Session.run_of_choice? hc]
      cases c with
      | help => exact .inl rfl
      | refused reason => exact .inl rfl
      | extra e m => exact .inl (others.extras e (hextras ▸ hof) m d)
      | provided label p c m =>
        obtain ⟨kind, rfl, hp, hoffer⟩ := hof
        rw [hprovider] at hp
        obtain ⟨hmem, _⟩ := CommandTree.of_findProvider hp
        obtain ⟨b, hb', hpb⟩ := mem_batches_of_selection registered hselection hmem
        rcases others.plugins b hb' _ hpb with layout | keeps
        · exact .inr ⟨kind, m, s, p, c, hb, hc, layout⟩
        · exact .inl (keeps _ (.inl ⟨kind, hoffer⟩) _ m d hdir)
      | named label p c m =>
        obtain ⟨name, _, hp, hoffer⟩ := hof
        rw [halpha] at hp
        obtain ⟨_, hfirst⟩ := CommandTree.lookup_alpha_eq_some_iff.1 hp
        obtain ⟨b, hb', hpb⟩ := mem_batches_of_selection registered hselection hfirst.mem.1
        rcases others.plugins b hb' _ hpb with layout | keeps
        · rw [layout.alpha_eq_nil] at hoffer
          cases hoffer
        · exact .inl (keeps _ (.inr ⟨name, mem_of_lookup hoffer⟩) _ m d hdir)

/-- Whether a run ends before a handler of a plugin with a place in the tree, or that handler fails. -/
def EndsEarly (h : Host) (d : Directory) (argv : List RawText) : Prop :=
  (∃ e, h.bootstrap d argv = .error e) ∨ (Program.runHost h d argv).usage ≠ none ∨
    (Program.runHost h d argv).showsHelp = true ∨ (Program.runHost h d argv).failure ≠ none ∨
    ∃ s, h.bootstrap d argv = .ok s ∧ ((∃ e m, s.choice? = some (.extra e m)) ∨
      ∃ label p c m, s.choice? = some (.named label p c m))

section

variable (others : h.OthersKeepFile)
  (reaches : ∀ m, h.AsksLayout d argv .init m → d.Reaches h.projectDir)

include others reaches

/-- **A run leaves the project file alone, or succeeds** with a subcommand of a layout. -/
theorem look_or_succeeds :
    (Program.runHost h d argv).directory.look (ConfigFile.path h.projectDir) =
        d.look (ConfigFile.path h.projectDir) ∨ ∃ kind m, h.Succeeds d argv kind m := by
  rcases look_runHost_cases others d argv with hsame | ⟨kind, m, asks⟩
  · exact .inl hsame
  · obtain ⟨i, hi, hdirectory, hfailure, _⟩ := asks.runHost_eq
    by_cases hok : (Program.runHost h d argv).failure = none
    · exact .inr ⟨kind, m, asks, hok⟩
    · left
      rw [hdirectory, ← hi]
      refine GoLayout.look_handler ?_ fun h => hok (hfailure.2 h)
      rintro rfl
      rw [hi]
      exact reaches m asks

/-- A run that ends early leaves the project file alone. -/
theorem look_of_endsEarly (ends : h.EndsEarly d argv) :
    (Program.runHost h d argv).directory.look (ConfigFile.path h.projectDir) =
      d.look (ConfigFile.path h.projectDir) := by
  rcases look_or_succeeds others reaches with hsame | ⟨kind, m, asks, hok⟩
  · exact hsame
  · exfalso
    obtain ⟨_, _, _, _, husage, hhelp⟩ := asks.runHost_eq
    obtain ⟨s, p, c, started, chosen, _⟩ := asks
    rcases ends with ⟨e, hb⟩ | husage' | hhelp' | hfailed | ⟨s', started', hchoice⟩
    · rw [started] at hb
      cases hb
    · exact husage' husage
    · rw [hhelp] at hhelp'
      cases hhelp'
    · exact hfailed hok
    · obtain rfl := Except.ok.inj (started.symm.trans started')
      rw [chosen] at hchoice
      rcases hchoice with ⟨e, m', hextra⟩ | ⟨label, p', c', m', hnamed⟩
      · cases hextra
      · cases hnamed

end

/-- **A run that does not succeed leaves the project file alone.** Let nothing but the built-in layouts
write the project file.

1. Where a run comes to the `init` of a layout, let no two dots on the path of the project come behind a
   name that does not exist. Then a run that cannot start, whose arguments are not accepted, that shows
   help, that is for a command of the host or a named subcommand, or that fails, leaves what stands at the
   path of the project file as it was, whether that is nothing, a folder or a file of any content. And if
   that is changed, an `init`, `create api` or `create webhook` of a layout has succeeded.
2. Whatever the path of the project, an `init` that fails leaves every file as it was and every folder a
   folder, and no project file nor a folder of that name appears anywhere, unless the name is on the path.
3. Where something stands at the path of the project file, no project is made and the directory is left
   alone.
4. Making a project leaves every file as it was and every folder a folder, if it fails or no two dots come
   behind a missing name. So the project file takes the place of nothing, also after folders were made. -/
theorem project_file_kept (others : h.OthersKeepFile) (d : Directory) (argv : List RawText) :
    ((∀ m, h.AsksLayout d argv .init m → d.Reaches h.projectDir) →
      (h.EndsEarly d argv →
        (Program.runHost h d argv).directory.look (ConfigFile.path h.projectDir) =
          d.look (ConfigFile.path h.projectDir)) ∧
      ((Program.runHost h d argv).directory.look (ConfigFile.path h.projectDir) ≠
          d.look (ConfigFile.path h.projectDir) → ∃ kind m, h.Succeeds d argv kind m)) ∧
    (∀ m, h.AsksLayout d argv .init m → (Program.runHost h d argv).failure ≠ none →
      d.Keeps (Program.runHost h d argv).directory ∧
        (ConfigFile.fileName ∉ Path.steps h.projectDir →
          ∀ folder, d.find? (folder ++ [ConfigFile.fileName]) = none →
            (Program.runHost h d argv).directory.find? (folder ++ [ConfigFile.fileName]) = none)) ∧
    ∀ c, (d.exists (ConfigFile.path h.projectDir) = true →
        Project.init d h.projectDir c = (.error (.alreadyExists h.projectDir), d)) ∧
      ((d.Reaches h.projectDir ∨ ∃ e, (Project.init d h.projectDir c).1 = .error e) →
        d.Keeps (Project.init d h.projectDir c).2) := by
  refine ⟨fun reaches => ?_, fun m asks failed => ?_, fun c => ⟨fun there => ?_, Project.keeps_init⟩⟩
  · exact ⟨look_of_endsEarly others reaches, (look_or_succeeds others reaches).resolve_left⟩
  · obtain ⟨i, hi, hdirectory, hfailure, _⟩ := asks.runHost_eq
    rw [hdirectory, ← hi]
    exact GoLayout.keeps_runInit fun hok => failed (hfailure.2 hok)
  · rcases Project.init_cases d h.projectDir c with ⟨_, hinit⟩ | ⟨habsent, _⟩ | ⟨habsent, _⟩
    · exact hinit
    · cases there.symm.trans habsent
    · cases there.symm.trans habsent

/-! The plugins that ship, for projects in different folders. -/

/-- What is there differs from nothing. -/
theorem ne_of_isSome {α : Type} {there nothing : Option α} (h : there.isSome = true)
    (h' : nothing.isSome = false) : there ≠ nothing := by
  rintro rfl
  rw [h] at h'
  cases h'

/-- Of the program as it ships nothing but the layouts writes a project file. -/
theorem othersKeepFile_of_shipped {h : Host} (extras : ∀ e ∈ h.extras, e ∈ Program.host.extras)
    (batches : h.batches = Program.host.batches) : h.OthersKeepFile where
  extras := by
    intro e he m d
    obtain rfl := List.mem_singleton.1 (extras e he)
    rfl
  plugins := by
    intro b hb p hp
    rw [batches] at hb
    exact .inl (Program.isLayout_of_shipped (Program.eq_layout_of_mem_batches ⟨b, hb, hp⟩))

/-- A host with the plugins that ship and a folder for projects. -/
def hostIn (root : String) : Host where
  batches := Program.batches
  projectDir := root

/-- Whatever its folder, of such a host nothing but the layouts writes a project file. -/
theorem othersKeepFile_hostIn (root : String) : (hostIn root).OthersKeepFile :=
  othersKeepFile_of_shipped (fun _ he => absurd he List.not_mem_nil) rfl

/-- A working directory beside a folder with a file that is no configuration. -/
def besideProject : Directory where
  children := [("proj", .folder [("PROJECT", .text "version: [")]), ("work", .folder [])]
  here := ["work"]

/-- In an empty directory `init` makes a project file, and so has succeeded. In a folder beside the working
directory it fails, and the file that is there is kept. -/
theorem project_file_kept_empty :
    (∃ kind m, Program.host.Succeeds {} initRun kind m) ∧
      (Program.runHost (hostIn "../proj") besideProject initRun).failure ≠ none ∧
      (Program.runHost (hostIn "../proj") besideProject initRun).directory.look "../proj/PROJECT" =
        besideProject.look "../proj/PROJECT" := by
  have failed : (Program.runHost (hostIn "../proj") besideProject initRun).failure ≠ none := by
    decide +kernel
  refine ⟨?_, failed, ?_⟩
  · have others : Program.host.OthersKeepFile := othersKeepFile_of_shipped (fun _ he => he) rfl
    have reaches : Directory.Reaches {} Program.host.projectDir :=
      Directory.reaches_of_notMem (by decide)
    apply ((project_file_kept others {} initRun).1 fun _ _ => reaches).2
    exact ne_of_isSome (by decide +kernel) (by decide)
  · have reaches : besideProject.Reaches (hostIn "../proj").projectDir :=
      Directory.reaches_of_isFolder (by decide)
    have kept := (project_file_kept (othersKeepFile_hostIn "../proj") besideProject initRun).1
      fun _ _ => reaches
    exact kept.1 (.inr (.inr (.inr (.inl failed))))

/-- The folder on the way is made before the project file is written, and then stands in its place. -/
theorem project_file_lost :
    (hostIn "PROJECT/..").OthersKeepFile ∧
      (Program.runHost (hostIn "PROJECT/..") {} initRun).failure ≠ none ∧
      (Program.runHost (hostIn "PROJECT/..") {} initRun).directory.look
        (ConfigFile.path (hostIn "PROJECT/..").projectDir) ≠
          Directory.look {} (ConfigFile.path (hostIn "PROJECT/..").projectDir) :=
  ⟨othersKeepFile_hostIn _, by decide +kernel, ne_of_isSome (by decide +kernel) (by decide)⟩

/-- A directory with a project file. -/
def keptProject : Directory where
  children := [("PROJECT", .text "version: \"2\"\nrepo: kept\n")]

/-- The project file is found only when the folder on the way is made, and then it is overwritten. -/
theorem project_file_overwritten :
    keptProject.exists (ConfigFile.path "missing/..") = false ∧
      (Program.runHost (hostIn "missing/..") keptProject initRun).failure = none ∧
      (Program.runHost (hostIn "missing/..") keptProject initRun).directory.read "PROJECT" ≠
        keptProject.read "PROJECT" :=
  ⟨by decide, by decide +kernel, by decide +kernel⟩

end Host

end Scaffolder
