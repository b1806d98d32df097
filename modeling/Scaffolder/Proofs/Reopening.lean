import Scaffolder.Proofs.Directory.Folders
import Scaffolder.Proofs.Lifecycle

/-!
# Projects that can be opened again

The program as it ships leaves no project behind that it cannot go on with.

* **Resources** (`Config.WellNamed`): whatever is recorded, resources have names that a resource may
  have, and each has one of its own.
* **Layouts** (`Config.HasShippedLayout`): a new project has the version that was asked for and the
  key of the plugin that made it. So there are three pairs of a version and a layout, and nothing
  that is recorded later changes them.
* **Directories** (`Program.WellKept`): a run leaves no project file or one with such a configuration,
  if there was no other before (`wellKept_runHost`), and so does any number of runs
  (`wellKept_after`).
* **Later runs** (`exists_bootstrap`): in such a directory a run without a plugin key starts. What it
  asks for is the default of version `2`, or one of the two layouts of version `3-alpha` by its key
  (`Request.Served`).

`project_reopens` puts the last two together.
-/

namespace Scaffolder

open Text (RawText)

/-! ## Resources -/

namespace Config

/-- Whether the resources have names that a resource may have, each its own. -/
structure WellNamed (c : Config) : Prop where
  /-- Every name is one that a resource may have. -/
  valid : ∀ r ∈ c.resources, r.name.fault? = none
  /-- No two resources have the same name. -/
  distinct : (c.resources.map Resource.name).Nodup

/-- What changes no name leaves the names as they are. -/
theorem map_name_modifyFirst (p : Resource → Bool) {f : Resource → Resource}
    (h : ∀ r, (f r).name = r.name) (rs : List Resource) :
    (modifyFirst p f rs).map Resource.name = rs.map Resource.name := by
  induction rs with
  | nil => rfl
  | cons r rs ih =>
    unfold modifyFirst
    split_ifs
    · rw [List.map_cons, List.map_cons, h]
    · rw [List.map_cons, List.map_cons, ih]

/-- Webhooks change no names. -/
theorem map_name_updateWebhooks (c : Config) (name : ResourceName) (f : Webhooks → Webhooks) :
    (c.updateWebhooks name f).resources.map Resource.name = c.resources.map Resource.name := by
  apply map_name_modifyFirst
  intro r
  rfl

/-- A resource is there if one has its name. -/
theorem hasResource_iff {c : Config} {name : ResourceName} :
    c.hasResource name = true ↔ name ∈ c.resources.map Resource.name := by
  simp [hasResource]

/-- A resource that is new keeps names distinct. -/
theorem nodup_addResource {c : Config} {name : ResourceName}
    (distinct : (c.resources.map Resource.name).Nodup) (new : c.hasResource name = false) :
    ((c.addResource name).resources.map Resource.name).Nodup := by
  have fresh : name ∉ c.resources.map Resource.name := by
    rw [← hasResource_iff, new]
    exact Bool.false_ne_true
  unfold addResource
  rw [List.map_append, List.map_singleton, ← List.concat_eq_append]
  exact distinct.concat fresh

/-- **What is recorded keeps resources well named.** -/
theorem WellNamed.records {c c' : Config} (h : c.WellNamed) (records : GoLayout.Records c c') :
    c'.WellNamed := by
  obtain ⟨valid, distinct⟩ := h
  cases records with
  | @resource name hname hnew =>
    constructor
    · intro r hr
      rcases List.mem_append.1 hr with hr | hr
      · exact valid r hr
      · rw [List.mem_singleton.1 hr]
        exact hname
    · exact nodup_addResource distinct hnew
  | webhooks name f =>
    have same := c.map_name_updateWebhooks name f
    constructor
    · intro r hr
      have hmem : r.name ∈ c.resources.map Resource.name := same ▸ List.mem_map_of_mem hr
      obtain ⟨r', hr', hname⟩ := List.mem_map.1 hmem
      rw [← hname]
      exact valid r' hr'
    · rw [same]
      exact distinct

/-! ## Layouts -/

/-- Whether the version and the layout are those of a project that a shipped layout has made. -/
def HasShippedLayout (c : Config) : Prop :=
  (c.version = ⟨"2"⟩ ∧ c.layout = "") ∨
    (c.version = ⟨"3-alpha"⟩ ∧
      (c.layout = "go.scaffold.dev/v2" ∨ c.layout = "go.scaffold.dev/v3-alpha"))

/-- The same project has the same layout. -/
theorem HasShippedLayout.sameProject {c c' : Config} (h : c.HasShippedLayout)
    (same : c.SameProject c') : c'.HasShippedLayout := by
  unfold HasShippedLayout
  rw [same.version, same.layout]
  exact h

/-- Whether a configuration is one that the program as it ships may have left. -/
structure Shipped (c : Config) : Prop where
  /-- The version and the layout. -/
  layout : c.HasShippedLayout
  /-- The resources. -/
  resources : c.WellNamed

/-- What is recorded later leaves a configuration one that the program may have left. -/
theorem Shipped.records {c c' : Config} (h : c.Shipped) (records : GoLayout.Records c c') :
    c'.Shipped :=
  ⟨h.layout.sameProject records.sameProject, h.resources.records records⟩

end Config

namespace Program

/-- The two plugins that ship. -/
theorem eq_layout_of_mem_batches {p : Plugin} (h : ∃ b ∈ host.batches, p ∈ b.plugins) :
    p = GoLayout.v2 ∨ p = GoLayout.v3Alpha := by
  obtain ⟨b, hb, hp⟩ := h
  rcases List.mem_pair.1 hb with rfl | rfl
  · exact List.mem_pair.1 hp
  · exact .inl (List.mem_singleton.1 hp)

/-- The plugins that ship are layouts. -/
theorem isLayout_of_shipped {p : Plugin} (h : p = GoLayout.v2 ∨ p = GoLayout.v3Alpha) :
    GoLayout.IsLayout p := by
  rcases h with rfl | rfl
  · exact ⟨_, _, 0, rfl⟩
  · exact ⟨_, _, 0, rfl⟩

/-- **A new project** of a shipped plugin and a version that the plugin supports. -/
theorem shipped_newConfig {p : Plugin} (h : p = GoLayout.v2 ∨ p = GoLayout.v3Alpha) {s : Session}
    (supported : s.request.version ∈ p.projectVersions) (domain repo : String) :
    (GoLayout.newConfig (s.invocation p) domain repo).Shipped := by
  refine ⟨?_, ⟨fun r hr => absurd hr List.not_mem_nil, List.nodup_nil⟩⟩
  have layouts : ∀ v : ProjectVersion, s.request.version = v →
      (GoLayout.newConfig (s.invocation p) domain repo).version = v ∧
        (GoLayout.newConfig (s.invocation p) domain repo).layout =
          if v.supportsLayout then p.keyText else "" := by
    rintro v rfl
    exact ⟨rfl, rfl⟩
  rcases h with rfl | rfl
  · rcases List.mem_pair.1 supported with hv | hv
    · exact .inl (layouts _ hv)
    · exact .inr ((layouts _ hv).imp_right .inl)
  · exact .inr ((layouts _ (List.mem_singleton.1 supported)).imp_right .inr)

/-! ## Directories -/

/-- Whether a directory has no project file, or one that the program as it ships may have left. -/
def WellKept (d : Directory) : Prop :=
  d.read (ConfigFile.path ".") = .error .notFound ∨
    ∃ c, ConfigFile.load d "." = .ok (some c) ∧ c.Shipped

/-- A project that loads from such a directory is one that the program may have left. -/
theorem WellKept.shipped {d : Directory} (h : WellKept d) {c : Config}
    (loaded : ConfigFile.load d "." = .ok (some c)) : c.Shipped := by
  rcases h with habsent | ⟨c', loaded', hshipped⟩
  · rw [ConfigFile.load_of_not_found habsent] at loaded
    cases loaded
  · obtain rfl := ConfigFile.load_inj loaded' loaded
    exact hshipped

/-- **A handler of a shipped plugin** leaves a well-kept directory well kept. The folder of the
project is the directory itself, so that `init` makes no folder on the way. -/
theorem WellKept.handler {d : Directory} (h : WellKept d) {p : Plugin}
    (hp : p = GoLayout.v2 ∨ p = GoLayout.v3Alpha) {c : Subcommand} (offered : p.Offers c)
    {s : Session} (here : s.projectDir = ".")
    (supported : s.request.version ∈ p.projectVersions) (m : MatchedCommand) :
    WellKept (c.run (s.invocation p) m d).directory := by
  have root : (s.invocation p).projectDir = "." := here
  rcases (isLayout_of_shipped hp).isHandler offered with hinit | hcreate
  · have folder : (d.makeFolders (s.invocation p).projectDir).2 = d := by
      rw [root]
      exact d.makeFolders_here
    rw [hinit]
    rcases GoLayout.runInit_cases m folder with hsame | ⟨domain, repo, loaded⟩
    · rw [hsame]
      exact h
    · rw [root] at loaded
      exact .inr ⟨_, loaded, shipped_newConfig hp supported domain repo⟩
  · rcases GoLayout.create_cases hcreate (s.invocation p) m d with
      hsame | ⟨c₁, c₂, loaded, records, loaded'⟩
    · rw [hsame]
      exact h
    · rw [root] at loaded loaded'
      exact .inr ⟨c₂, loaded', (h.shipped loaded).records records⟩

/-- **A run leaves a well-kept directory well kept,** whatever its arguments are and however it
ends. -/
theorem wellKept_runHost {d : Directory} (h : WellKept d) (argv : List RawText) :
    WellKept (runHost host d argv).directory := by
  rcases hb : host.bootstrap d argv with e | s
  · rw [directory_of_bootstrap_error hb]
    exact h
  · obtain ⟨_, _, _, _, _, _, here, _⟩ := Host.bootstrap_eq_ok_iff.1 hb
    rcases directory_of_bootstrap hb with
      hsame | ⟨e, he, m, hrun⟩ | ⟨r, p, c, m, registered, selected, offered, hrun⟩
    · rw [hsame]
      exact h
    · obtain rfl := List.mem_singleton.1 he
      rw [hrun]
      exact h
    · obtain ⟨hbatch, supported⟩ := Host.offered_of_registry registered selected
      rw [hrun]
      exact h.handler (eq_layout_of_mem_batches hbatch) offered here supported m

/-- **So does any number of runs.** -/
theorem wellKept_after {d : Directory} (h : WellKept d) (runs : List (List RawText)) :
    WellKept (host.after d runs) := by
  induction runs generalizing d with
  | nil => exact h
  | cons argv runs ih => exact ih (wellKept_runHost h argv)

end Program

/-! ## Later runs -/

namespace Request

/-- Whether a request is one that the program as it ships can serve: it is for version `2` and no key
governs it, or it is for version `3-alpha` and the key of a layout does. -/
def Served (q : Request) : Prop :=
  (q.version = ⟨"2"⟩ ∧ q.governingKey? = none) ∨
    (q.version = ⟨"3-alpha"⟩ ∧ (q.governingKey? = some "go.scaffold.dev/v2" ∨
      q.governingKey? = some "go.scaffold.dev/v3-alpha"))

/-- A request without a key outside projects, or in a project that records no layout, is governed by
no key. -/
theorem governingKey?_eq_none {q : Request} (blank : q.key = "") (layouts : q.layout? = none) :
    q.governingKey? = none := by
  unfold governingKey?
  rw [hasKey_of_blank blank, layouts]
  rfl

/-- The version that is asked for by default can be served. -/
theorem served_unconfigured : (unconfigured ⟨"2"⟩ "").Served :=
  .inl ⟨rfl, governingKey?_eq_none rfl rfl⟩

/-- A request without a key in a project that a shipped layout has made can be served. -/
theorem served_configured {c : Config} (h : c.HasShippedLayout) : (configured c "").Served := by
  rcases h with ⟨hversion, -⟩ | ⟨hversion, hlayout⟩
  · have nolayouts : c.supportsLayout = false := by
      unfold Config.supportsLayout
      rw [hversion]
      decide
    refine .inl ⟨hversion, governingKey?_eq_none rfl ?_⟩
    simp [layout?, configured, nolayouts]
  · have layouts : c.supportsLayout = true := by
      unfold Config.supportsLayout
      rw [hversion]
      decide
    have blank : Text.trim "" = "" := rfl
    refine .inr ⟨hversion, ?_⟩
    rw [governingKey?_configured blank layouts]
    refine hlayout.imp ?_ ?_
    · intro hlayout
      rw [hlayout]
      rfl
    · intro hlayout
      rw [hlayout]
      rfl

/-- **A request that can be served selects a plugin.** -/
theorem Served.exists_select {q : Request} (h : q.Served) :
    ∃ s, q.select (Registry.afterAll {} Program.batches) = .ok s := by
  rcases h with ⟨hversion, nokey⟩ | ⟨hversion, hkey | hkey⟩
  · refine ⟨_, select_of_default nokey (d := GoLayout.v2) ?_⟩
    rw [hversion]
    rfl
  · rw [select_of_governingKey? hkey (by decide), hversion]
    exact exists_eq_ok (by decide)
  · rw [select_of_governingKey? hkey (by decide), hversion]
    exact exists_eq_ok (by decide)

end Request

namespace Program

/-- What a run without a plugin key asks for in a well-kept directory can be served. Outside projects
that holds of the default version alone. -/
theorem WellKept.exists_request {d : Directory} (h : WellKept d) {scan : Prescan}
    (noKey : scan.key = "")
    (asked : scan.versionSet = false ∨ d.exists (ConfigFile.path ".") = true) :
    ∃ q, host.request d scan = .ok q ∧ q.Served := by
  rcases h with habsent | ⟨c, loaded, hshipped⟩
  · have unasked : scan.requested = none := by
      rcases asked with hset | hexists
      · exact Option.isNone_iff_eq_none.1 (Option.isSome_eq_false_iff.1 hset)
      · rw [Directory.not_exists_of_read habsent] at hexists
        cases hexists
    have requested := Host.request_of_none (h := host)
      (ConfigFile.load_of_not_found habsent) scan
    rw [noKey, Prescan.version, unasked] at requested
    exact ⟨_, requested, Request.served_unconfigured⟩
  · have supported : c.isLegacy = false := by
      unfold Config.isLegacy
      rcases hshipped.layout with ⟨hversion, -⟩ | ⟨hversion, -⟩
      · rw [hversion]
        decide
      · rw [hversion]
        decide
    have requested := Host.request_of_some (h := host) loaded supported scan
    rw [noKey] at requested
    exact ⟨_, requested, Request.served_configured hshipped.layout⟩

/-- The host as it ships has a registry. -/
theorem registry_host : host.registry = .ok (Registry.afterAll {} batches) := by
  obtain ⟨r, registered⟩ := exists_eq_ok (x := host.registry) (by decide)
  obtain ⟨rfl, -⟩ := Host.afterAll_of_registry registered
  exact registered

/-- The plugins that ship keep the names of commands. -/
theorem keepsNames_host : host.KeepsNames :=
  fun b hb _ hp => (isLayout_of_shipped (eq_layout_of_mem_batches ⟨b, hb, hp⟩)).keepsNames

/-- Whatever is selected, the command that prints the version takes no name of another. -/
theorem exists_tree (r : Registry) {s : Option Selection}
    (keeps : ∀ p ∈ Host.selectedPlugins s, p.KeepsNames) : ∃ t, host.tree r s = .ok t := by
  have built : ∃ t, CommandTree.build host.commandName r (Host.selectedPlugins s) host.extras =
      .ok t :=
    CommandTree.exists_build _ r keeps (by decide) (by decide)
  obtain ⟨t, built⟩ := built
  exact ⟨t, Host.tree_eq_ok_iff.2 built⟩

/-- **In a well-kept directory a run starts** that has no plugin key, and asks for no version where
there is no project. -/
theorem WellKept.exists_bootstrap {d : Directory} (h : WellKept d) {argv : List RawText}
    (noKey : (Prescan.scan argv).key = "")
    (asked : (Prescan.scan argv).versionSet = false ∨ d.exists (ConfigFile.path ".") = true) :
    ∃ s, host.bootstrap d argv = .ok s := by
  obtain ⟨q, requested, served⟩ := h.exists_request noKey asked
  obtain ⟨t, selected⟩ := served.exists_select
  have selection := Host.selection_of_select registry_host selected (Prescan.scan argv)
  obtain ⟨tree, built⟩ := exists_tree (Registry.afterAll {} batches)
    (keepsNames_host.of_selection registry_host selection)
  exact ⟨⟨host.commandName, host.projectDir, argv.tail, q, _, tree⟩,
    Host.bootstrap_eq_ok_iff.2 ⟨_, registry_host, requested, selection, built, rfl, rfl, rfl⟩⟩

/-! ## Main result -/

/-- **The program never leaves a project that it cannot open again.** After any runs that start in a
directory without a project file, an empty one for example, whatever their arguments are and whatever
is denied to them, there is no project file, or it loads to a configuration that has version `2` and no
layout, or version `3-alpha` and the key of one of the two layouts, and whose resources have well-formed
names, no two the same.

And in each of these directories every run starts that has no plugin key, and that asks for no
project version unless there is a project file. -/
theorem project_reopens {d : Directory} (absent : d.read (ConfigFile.path ".") = .error .notFound)
    (runs : List (List RawText)) :
    ((host.after d runs).exists (ConfigFile.path ".") = false ∨
      ∃ c, ConfigFile.load (host.after d runs) "." = .ok (some c) ∧
        ((c.version = ⟨"2"⟩ ∧ c.layout = "") ∨
          (c.version = ⟨"3-alpha"⟩ ∧
            (c.layout = "go.scaffold.dev/v2" ∨ c.layout = "go.scaffold.dev/v3-alpha"))) ∧
        (c.resources.map Resource.name).Nodup ∧ ∀ r ∈ c.resources, r.name.fault? = none) ∧
    ∀ argv : List RawText, (Prescan.scan argv).key = "" →
      ((Prescan.scan argv).versionSet = false ∨
        (host.after d runs).exists (ConfigFile.path ".") = true) →
      ∃ s, host.bootstrap (host.after d runs) argv = .ok s := by
  have kept : WellKept (host.after d runs) := wellKept_after (.inl absent) runs
  constructor
  · rcases kept with habsent | ⟨c, loaded, layout, resources⟩
    · exact .inl (Directory.not_exists_of_read habsent)
    · exact .inr ⟨c, loaded, layout, resources.distinct, resources.valid⟩
  · intro argv noKey asked
    exact kept.exists_bootstrap noKey asked

/-- A project of the later layout, and a resource that is recorded once and refused once. -/
def frigateRuns : List (List RawText) :=
  let create := ["scaffold", "create", "api", "--group", "ship", "--version", "v1", "--kind", "Frigate"]
  [["scaffold", "init", "--project-version", "3-alpha", "--plugins", "go.scaffold.dev/v3-alpha"],
    create, create].map fun argv => argv.map RawText.ofString

/-- What the project file then loads to. -/
def frigateConfig : Config where
  version := ⟨"3-alpha"⟩
  domain := GoLayout.defaultDomain
  layout := GoLayout.v3Alpha.keyText
  resources := [⟨⟨"ship", "v1", "Frigate"⟩, {}⟩]

/-- The project is opened again although a version is asked for that no plugin supports. -/
theorem project_reopens_frigate :
    ConfigFile.load (host.after {} frigateRuns) "." = .ok (some frigateConfig) ∧
      (host.after {} frigateRuns).exists (ConfigFile.path ".") = true ∧
      (∃ c, ConfigFile.load (host.after {} frigateRuns) "." = .ok (some c) ∧
        (c.resources.map Resource.name).Nodup) ∧
      ∃ s, host.bootstrap (host.after {} frigateRuns)
        (["scaffold", "--project-version", "9"].map RawText.ofString) = .ok s := by
  have loads : ConfigFile.load (host.after {} frigateRuns) "." = .ok (some frigateConfig) := by
    decide +kernel
  have there := ConfigFile.exists_of_load loads
  obtain ⟨absentOrLoaded, starts⟩ := project_reopens (d := {}) (by decide) frigateRuns
  refine ⟨loads, there, ?_, starts _ (by decide) (.inr there)⟩
  rcases absentOrLoaded with habsent | ⟨c, loaded, -, distinct, -⟩
  · exact absurd (habsent.symm.trans there) Bool.false_ne_true
  · exact ⟨c, loaded, distinct⟩

end Program

end Scaffolder
