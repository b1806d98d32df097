import Scaffolder.Proofs.Project
import Scaffolder.Proofs.ProjectVersion
import Scaffolder.Proofs.Runs

/-!
# The life of a project

What stays the same from the run that makes a project on, whatever is run later.

* **The project is kept** (`projectKept_after`): if nothing but the handlers of the built-in layouts
  writes the project file, then no run changes the version or the layout of a project.
* **The plugin is kept** (`selection_after_init`): where a plugin has made a project whose version
  has layouts, every later run without a plugin key selects that plugin.

The first is an invariant of runs, and `directory_runHost` says what one run can do. The second
follows since the layout is the text of the plugin's key, and a plugin that was selected once is
selected again by that (`Request.select_again`).
-/

namespace Scaffolder

open Text (RawText)

namespace GoLayout

/-- Whether a plugin is one of the built-in layouts. -/
def IsLayout (p : Plugin) : Prop :=
  ∃ version versions serial, p = { plugin version versions with serial }

/-- The subcommands of the built-in layouts. -/
def subcommandOf : SubcommandKind → Subcommand
  | .init => initSubcommand
  | .createApi => createApiSubcommand
  | .createWebhook => createWebhookSubcommand

section

variable {p : Plugin} (layout : IsLayout p)

include layout

/-- **A built-in layout has all subcommands with a place of their own.** -/
theorem IsLayout.subcommand_eq (kind : SubcommandKind) : p.subcommand kind = some (subcommandOf kind) := by
  obtain ⟨version, versions, serial, rfl⟩ := layout
  cases kind with
  | init => rfl
  | createApi => rfl
  | createWebhook => rfl

/-- A built-in layout has no named subcommands. -/
theorem IsLayout.alpha_eq_nil : p.alpha = [] := by
  obtain ⟨version, versions, serial, rfl⟩ := layout
  rfl

/-- A built-in layout has no other subcommands. -/
theorem IsLayout.exists_of_offers {c : Subcommand} (offered : p.Offers c) :
    ∃ kind, c = subcommandOf kind := by
  rcases offered with ⟨kind, hkind⟩ | ⟨name, hname⟩
  · rw [layout.subcommand_eq] at hkind
    exact ⟨kind, (Option.some.inj hkind).symm⟩
  · rw [layout.alpha_eq_nil] at hname
    cases hname

/-- What a layout provides has one of the handlers of the layouts. -/
theorem IsLayout.isHandler {c : Subcommand} (offered : p.Offers c) : IsHandler c.run := by
  obtain ⟨kind, rfl⟩ := layout.exists_of_offers offered
  cases kind with
  | init => exact .inl rfl
  | createApi => exact .inr (.inl rfl)
  | createWebhook => exact .inr (.inr rfl)

/-- A built-in layout keeps the names of the commands that it configures. -/
theorem IsLayout.keepsNames : p.KeepsNames := by
  intro s offered c
  obtain ⟨kind, rfl⟩ := layout.exists_of_offers offered
  cases kind with
  | init => rfl
  | createApi => rfl
  | createWebhook => rfl

/-- The `init` of a built-in layout makes a project. -/
theorem IsLayout.run_init {c : Subcommand} (provided : p.subcommand .init = some c) :
    c.run = runInit := by
  rw [layout.subcommand_eq] at provided
  rw [← Option.some.inj provided]
  rfl

end

end GoLayout

namespace Host

/-- Whether nothing but the handlers of the built-in layouts writes the project file of a host. -/
structure OnlyLayoutsWrite (h : Host) : Prop where
  /-- The commands of the host do not write it. -/
  extras : ∀ e ∈ h.extras, ∀ m d, (e.run m d).directory.read (ConfigFile.path h.projectDir) =
    d.read (ConfigFile.path h.projectDir)
  /-- The subcommands of the plugins do not write it, unless they are those of the layouts. -/
  plugins : ∀ b ∈ h.batches, ∀ p ∈ b.plugins, ∀ c, p.Offers c → GoLayout.IsHandler c.run ∨
    ∀ i m d, i.projectDir = h.projectDir →
      (c.run i m d).directory.read (ConfigFile.path h.projectDir) =
        d.read (ConfigFile.path h.projectDir)

/-! ## The project is kept -/

/-- A run keeps the project. -/
theorem projectKept_runHost {h : Host} (writes : h.OnlyLayoutsWrite) (d : Directory)
    (argv : List RawText) : ProjectKept h.projectDir d (Program.runHost h d argv).directory := by
  rcases Program.directory_runHost h d argv with
    hsame | ⟨e, he, m, hd⟩ | ⟨b, hb, p, hp, c, i, m, hoffers, hi, hd⟩
  · rw [hsame]
    exact .refl _ d
  · rw [hd]
    exact .of_read (writes.extras e he m d)
  · rw [hd]
    rcases writes.plugins b hb p hp c hoffers with hhandler | hread
    · rw [← hi]
      exact GoLayout.projectKept_of_isHandler hhandler i m d
    · exact .of_read (hread i m d hi)

/-- **Any number of runs keep the project.** -/
theorem projectKept_after {h : Host} (writes : h.OnlyLayoutsWrite) (d : Directory)
    (runs : List (List RawText)) : ProjectKept h.projectDir d (h.after d runs) := by
  induction runs generalizing d with
  | nil => exact .refl _ d
  | cons argv runs ih => exact (projectKept_runHost writes d argv).trans (ih _)

/-! ## The plugin is kept -/

section

variable {h : Host} {d : Directory} {argv : List RawText} {s : Session} {label : String}
  {p : Plugin} {c : Subcommand} {m : MatchedCommand} (started : h.bootstrap d argv = .ok s)
  (chosen : s.choice? = some (.provided label p c m))

include started chosen

/-- What a run asks for is provided by a plugin in a batch of the host. -/
theorem offered_of_provided : (∃ b ∈ h.batches, p ∈ b.plugins) ∧
    ∃ kind : SubcommandKind, label = kind.label ∧ p.subcommand kind = some c := by
  obtain ⟨r, hregistry, _, hselection, htree, _⟩ := bootstrap_eq_ok_iff.1 started
  obtain ⟨kind, hlabel, hprovider, hoffer⟩ := Session.choice?_isOf chosen
  rw [(CommandTree.of_build (tree_eq_ok_iff.1 htree)).1] at hprovider
  have hmem := (CommandTree.of_findProvider hprovider).1
  exact ⟨mem_batches_of_selection hregistry hselection hmem, kind, hlabel, hoffer⟩

/-- The plugin that provides what a run asks for is the one that the run has selected. -/
theorem selection_of_provided :
    ∃ r, h.registry = .ok r ∧ s.request.select r = .ok (.single p) ∧
      s.selection = some (.single p) ∧ h.tree r s.selection = .ok s.tree := by
  obtain ⟨r, hregistry, _, hselection, htree, _⟩ := bootstrap_eq_ok_iff.1 started
  obtain ⟨kind, _, hprovider, _⟩ := Session.choice?_isOf chosen
  rw [(CommandTree.of_build (tree_eq_ok_iff.1 htree)).1] at hprovider
  have hmem := (CommandTree.of_findProvider hprovider).1
  obtain ⟨hselect, hsome⟩ := of_mem_selection hselection hmem
  exact ⟨r, hregistry, hselect, hsome, htree⟩

/-- What `init` of a layout leaves behind where it succeeds. -/
theorem load_after_init (layout : c.run = GoLayout.runInit)
    (succeeded : (Program.runHost h d argv).exitCode = 0) :
    ∃ config, ConfigFile.load (Program.runHost h d argv).directory h.projectDir = .ok (some config) ∧
      config.version = s.request.version ∧
      (s.request.version.supportsLayout = true → config.layout = p.keyText) := by
  obtain ⟨_, _, _, _, _, _, hdir, _⟩ := bootstrap_eq_ok_iff.1 started
  rw [Program.runHost_of_bootstrap started, Session.run_of_choice? chosen] at succeeded ⊢
  unfold CommandTree.perform at succeeded ⊢
  simp only [layout] at succeeded ⊢
  have hok : (GoLayout.runInit (s.invocation p) m d).failure = none := by
    cases hfailure : (GoLayout.runInit (s.invocation p) m d).failure with
    | none => rfl
    | some failure =>
      simp only [Program.conclude, hfailure] at succeeded
      cases succeeded
  have hload := GoLayout.load_runInit hok
  have hroot : (s.invocation p).projectDir = h.projectDir := hdir
  rw [hroot] at hload
  refine ⟨_, hload, rfl, ?_⟩
  intro layouts
  exact if_pos layouts

end

/-- A run without a plugin key selects the plugin that the layout of the project names, if that was
selected for the version before. -/
theorem bootstrap_of_layout {h : Host} {r : Registry} {q : Request} {p : Plugin} {t : CommandTree}
    (registered : h.registry = .ok r) (selected : q.select r = .ok (.single p))
    (built : h.tree r (some (.single p)) = .ok t) {d : Directory} {c : Config}
    (loaded : ConfigFile.load d h.projectDir = .ok (some c)) (version : c.version = q.version)
    (layouts : q.version.supportsLayout = true) (layout : c.layout = p.keyText)
    {argv : List RawText} (noHelp : (Prescan.scan argv).genericHelp = false)
    (noKey : (Prescan.scan argv).key = "") :
    ∃ s, h.bootstrap d argv = .ok s ∧ s.selection = some (.single p) := by
  obtain ⟨rfl, accepted⟩ := afterAll_of_registry registered
  have sound := Registry.sound_afterAll h.batches
  have distinct := Registry.distinctKeys_empty.afterAll accepted
  set q' := Request.configured c (Prescan.scan argv).key with hq'
  have hlayouts : c.supportsLayout = true := by
    unfold Config.supportsLayout
    rw [version, layouts]
  have hrequest : h.request d (Prescan.scan argv) = .ok q' :=
    request_of_some loaded (ProjectVersion.isLegacy_of_supportsLayout hlayouts) _
  have hselect : q'.select (Registry.afterAll {} h.batches) = .ok (.single p) := by
    obtain ⟨p', hp', htrim, hagain⟩ := Request.select_again sound distinct selected
    obtain rfl := Selection.single_inj.1 hp'
    apply hagain q' version
    have hblank : Text.trim (Prescan.scan argv).key = "" := by
      rw [noKey]
      rfl
    rw [hq', Request.governingKey?_configured hblank hlayouts, layout, htrim]
  have hselection := selection_of_select registered hselect (Prescan.scan argv)
  simp only [noHelp, Bool.false_eq_true, ↓reduceIte] at hselection
  exact ⟨⟨h.commandName, h.projectDir, argv.tail, q', some (.single p), t⟩,
    bootstrap_eq_ok_iff.2 ⟨_, registered, hrequest, hselection, built, rfl, rfl, rfl⟩, rfl⟩

/-- **A project keeps its plugin.** Let a run succeed that asks for the `init` of a built-in layout,
under a version that has layouts. Then the project file that it leaves loads to a configuration with
that version and with the key of the plugin as its layout. And after any further runs of the same
host, whatever they ask for and whether they succeed, every run starts that asks for no general help
and has no plugin key, and it selects the same plugin. -/
theorem selection_after_init {h : Host} (writes : h.OnlyLayoutsWrite) {d : Directory}
    {argv : List RawText} {s : Session} {p : Plugin} {provided : Subcommand} {m : MatchedCommand}
    (started : h.bootstrap d argv = .ok s)
    (chosen : s.choice? = some (.provided "init" p provided m))
    (layout : provided.run = GoLayout.runInit)
    (succeeded : (Program.runHost h d argv).exitCode = 0)
    (layouts : s.request.version.supportsLayout = true) :
    (∃ c, ConfigFile.load (Program.runHost h d argv).directory h.projectDir = .ok (some c) ∧
      c.version = s.request.version ∧ c.layout = p.keyText) ∧
    ∀ (runs : List (List RawText)) (argv' : List RawText),
      (Prescan.scan argv').genericHelp = false → (Prescan.scan argv').key = "" →
        ∃ s', h.bootstrap (h.after (Program.runHost h d argv).directory runs) argv' = .ok s' ∧
          s'.selection = some (.single p) := by
  obtain ⟨c, hload, hversion, hlayout⟩ := load_after_init started chosen layout succeeded
  refine ⟨⟨c, hload, hversion, hlayout layouts⟩, ?_⟩
  intro runs argv' noHelp noKey
  obtain ⟨r, registered, selected, hselection, htree⟩ := selection_of_provided started chosen
  obtain ⟨c', hload', hsame⟩ := projectKept_after writes _ runs c hload
  rw [hselection] at htree
  exact bootstrap_of_layout registered selected htree hload' (hsame.version.trans hversion) layouts
    (hsame.layout.trans (hlayout layouts)) noHelp noKey

/-! A host with a default that is a plugin of its own, apart from the plain one of the same key. -/

/-- The host. -/
def twins : Host where
  batches := Request.twinBatches
  extras := [ExtraCommand.version "scaffold"]

/-- The run that makes a project of a version with layouts. -/
def initRun : List RawText :=
  ["scaffold", "init", "--project-version", "3-alpha"].map RawText.ofString

/-- The plugins of the host are layouts. -/
theorem isLayout_of_twins {b : Batch} (hb : b ∈ twins.batches) {p : Plugin} (hp : p ∈ b.plugins) :
    GoLayout.IsLayout p := by
  simp only [twins, Request.twinBatches, List.mem_cons, List.not_mem_nil, or_false] at hb
  rcases hb with rfl | rfl
  · simp only [List.mem_cons, List.not_mem_nil, or_false] at hp
    rcases hp with rfl | rfl
    · exact ⟨_, _, 0, rfl⟩
    · exact ⟨_, _, 0, rfl⟩
  · obtain rfl := List.mem_singleton.1 hp
    exact ⟨_, _, 1, rfl⟩

/-- Nothing but layouts writes the project file of the host. -/
theorem onlyLayoutsWrite_twins : twins.OnlyLayoutsWrite where
  extras := by
    intro e he m d
    obtain rfl := List.mem_singleton.1 he
    rfl
  plugins b hb p hp c hoffers := .inl ((isLayout_of_twins hb hp).isHandler hoffers)

/-- The default makes a project, and after a refused second `init` a run without arguments selects
the default again, not its twin. -/
theorem selection_after_init_twins :
    ∃ s p c m, twins.bootstrap {} initRun = .ok s ∧ s.choice? = some (.provided "init" p c m) ∧
      (Program.runHost twins {} initRun).exitCode = 0 ∧ p.serial = 1 ∧
      ∃ s', twins.bootstrap (twins.after (Program.runHost twins {} initRun).directory [initRun])
        [RawText.ofString "scaffold"] = .ok s' ∧ s'.selection = some (.single p) := by
  obtain ⟨s, p, c, m, started, chosen, holds⟩ := exists_of_asksFor "init"
    (fun s p _ => p.serial == 1 && s.request.version.supportsLayout)
    (x := twins.bootstrap {} initRun) (by decide +kernel)
  simp only [Bool.and_eq_true, beq_iff_eq] at holds
  obtain ⟨hserial, layouts⟩ := holds
  have succeeded : (Program.runHost twins {} initRun).exitCode = 0 := by decide +kernel
  have layout : c.run = GoLayout.runInit := by
    obtain ⟨⟨b, hb, hp⟩, kind, hlabel, hoffer⟩ := offered_of_provided started chosen
    cases kind with
    | init => exact (isLayout_of_twins hb hp).run_init hoffer
    | createApi => exact absurd hlabel (by decide)
    | createWebhook => exact absurd hlabel (by decide)
  obtain ⟨_, later⟩ :=
    selection_after_init onlyLayoutsWrite_twins started chosen layout succeeded layouts
  exact ⟨s, p, c, m, started, chosen, succeeded, hserial,
    later [initRun] [RawText.ofString "scaffold"] (by decide) (by decide)⟩

end Host

end Scaffolder
