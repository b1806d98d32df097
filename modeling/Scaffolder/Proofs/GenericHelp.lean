import Mathlib.Tactic.SplitIfs
import Scaffolder.Proofs.Runs

/-!
# General help starts where a run starts

A run in which general help is asked for checks nothing and selects nothing. It starts with the same
registry and project file as any other run, but with another tree.

* **The request** (`Host.exists_request`): whether there is one hangs on the project file alone.
* **The tree** (`CommandTree.build_generic`): without plugins the tree always has the `create` group. A
  tree that is built for a plugin may do without, and then leaves the name to the host.

So general help can fail where another run starts, and only on that name (`generic_help_starts`).
-/

namespace Scaffolder

open Text (RawText)

namespace CommandTree

variable {name : String} {r : Registry} {plugins : List Plugin} {extras : List ExtraCommand}
  {t : CommandTree}

/-- Without plugins there are the `create` group and `init`. -/
theorem names_pluginCommands_nil (r : Registry) :
    (pluginCommands r []).map Command.name = ["create", "init"] := rfl

/-- A tree leaves no name of the host's to choose between, and none of them is `init`. -/
theorem names_of_build (keeps : ∀ p ∈ plugins, p.KeepsNames) (h : build name r plugins extras = .ok t) :
    (extras.map fun e => e.command.name).Nodup ∧ ∀ e ∈ extras, e.command.name ≠ "init" := by
  obtain ⟨free, distinct, -⟩ := build_eq_ok_iff.1 h
  refine ⟨distinct, ?_⟩
  intro e he hinit
  apply free e he
  rw [hinit, ← name_initCommand r keeps]
  apply List.mem_map_of_mem
  unfold pluginCommands
  simp

/-- **The tree without plugins** is built for the commands of a host that has a tree for some plugins,
unless one of them is named `create`. -/
theorem build_generic (keeps : ∀ p ∈ plugins, p.KeepsNames) (h : build name r plugins extras = .ok t) :
    ((∀ e ∈ extras, e.command.name ≠ "create") → ∃ t', build name r [] extras = .ok t') ∧
      ((∃ e ∈ extras, e.command.name = "create") → build name r [] extras = .error "create") := by
  obtain ⟨distinct, notInit⟩ := names_of_build keeps h
  constructor
  · intro notCreate
    refine ⟨_, build_eq_ok_iff.2 ⟨?_, distinct, rfl⟩⟩
    intro e he
    rw [names_pluginCommands_nil]
    simp [notCreate e he, notInit e he]
  · rintro ⟨e, he, hcreate⟩
    rcases hbuild : build name r [] extras with taken | t'
    · obtain ⟨before, e', after, -, rfl, -, rfl, htaken⟩ := build_eq_error_iff.1 hbuild
      rw [names_pluginCommands_nil, List.mem_append] at htaken
      have hinit := notInit e' (by simp)
      rw [List.map_append, List.map_cons] at distinct
      have hnew : e'.command.name ∉ before.map fun e => e.command.name := by
        intro hmem
        exact List.disjoint_of_nodup_append distinct hmem List.mem_cons_self
      have hname : e'.command.name = "create" := by simpa [hinit, hnew] using htaken
      rw [hname]
    · obtain ⟨free, -⟩ := build_eq_ok_iff.1 hbuild
      have htaken : "create" ∈ (pluginCommands r []).map Command.name := by
        simp [names_pluginCommands_nil]
      exact absurd (hcreate ▸ htaken) (free e he)

end CommandTree

namespace Host

/-- **Whether a run has a request** does not hang on its arguments. -/
theorem exists_request {h : Host} {d : Directory} {scan : Prescan} {q : Request}
    (requested : h.request d scan = .ok q) (scan' : Prescan) : ∃ q', h.request d scan' = .ok q' := by
  unfold request at requested ⊢
  rcases hload : ConfigFile.load d h.projectDir with cause | _ | c
  · simp [hload] at requested
  · simp
  · by_cases hlegacy : c.isLegacy = true
    · simp [hload, hlegacy] at requested
    · simp [hlegacy]

/-- The start of a run that asks for general help comes down to the tree without plugins. -/
theorem bootstrap_of_genericHelp {h : Host} {d : Directory} {argv : List RawText} {r : Registry}
    {q : Request} (registered : h.registry = .ok r)
    (requested : h.request d (Prescan.scan argv) = .ok q)
    (generic : (Prescan.scan argv).genericHelp = true) :
    h.bootstrap d argv = (h.tree r none).map fun tree =>
      { commandName := h.commandName, projectDir := h.projectDir, arguments := argv.tail,
        request := q, selection := none, tree } := by
  have hselection : selection r q (Prescan.scan argv) = .ok none :=
    selection_eq_ok_iff.2 (.inl ⟨generic, rfl⟩)
  unfold bootstrap
  simp only [registered, requested, hselection, bind, Except.bind]
  rcases h.tree r none with cause | t
  · rfl
  · rfl

/-- **General help is as easy to get as any other run,** but for one name. Let the plugins of a host keep
the names of the commands that they configure, let a run start, and let other arguments ask for general help
in the same directory, whatever version and key they name.

1. The other run starts as well, without a plugin, exactly if no command of the host is named `create`.
2. Else it fails, since the `create` group has that name.

A host can have a command of that name, and its other runs can start, if the selected plugin provides
neither of the subcommands of the group. -/
theorem generic_help_starts {h : Host} (keeps : h.KeepsNames) {d : Directory}
    {argv argv' : List RawText} {s : Session} (started : h.bootstrap d argv = .ok s)
    (generic : (Prescan.scan argv').genericHelp = true) :
    ((∃ s', h.bootstrap d argv' = .ok s' ∧ s'.selection = none) ↔
        ∀ e ∈ h.extras, e.command.name ≠ "create") ∧
      ((∃ e ∈ h.extras, e.command.name = "create") →
        h.bootstrap d argv' = .error (.duplicateCommand "create")) := by
  obtain ⟨r, registered, requested, hselection, built, -⟩ := bootstrap_eq_ok_iff.1 started
  obtain ⟨q, requested'⟩ := exists_request requested (Prescan.scan argv')
  obtain ⟨free, taken⟩ := CommandTree.build_generic (keeps.of_selection registered hselection)
    (tree_eq_ok_iff.1 built)
  have hstart := bootstrap_of_genericHelp registered requested' generic
  have fails : (∃ e ∈ h.extras, e.command.name = "create") →
      h.bootstrap d argv' = .error (.duplicateCommand "create") := by
    intro hcreate
    rw [hstart]
    unfold tree
    rw [show selectedPlugins none = [] from rfl, taken hcreate]
    rfl
  refine ⟨⟨?_, ?_⟩, fails⟩
  · rintro ⟨s', started', -⟩ e he hcreate
    rw [fails ⟨e, he, hcreate⟩] at started'
    cases started'
  · intro notCreate
    obtain ⟨t, built'⟩ := free notCreate
    have htree : h.tree r none = .ok t := tree_eq_ok_iff.2 built'
    rw [hstart, htree]
    exact ⟨_, rfl, rfl⟩

/-- A host with a command of its own, whose plugin provides `init` alone. -/
def initOnly (e : ExtraCommand) : Host where
  batches := [⟨[{ GoLayout.v2 with subcommand := fun kind =>
    if kind = .init then GoLayout.v2.subcommand .init else none }], true⟩]
  extras := [e]

/-- General help starts beside a plain run, although it names a plugin key that there is not. -/
theorem generic_help_starts_unmatched :
    ∃ s s', bootstrap (initOnly (.version "scaffold")) {} (["scaffold"].map RawText.ofString) =
        .ok s ∧
      bootstrap (initOnly (.version "scaffold")) {}
        (["scaffold", "--help", "--plugins", "helm.scaffold.dev/v7"].map RawText.ofString) = .ok s' ∧
      s'.selection = none := by
  obtain ⟨s, started⟩ := exists_eq_ok (x := bootstrap (initOnly (.version "scaffold")) {}
    (["scaffold"].map RawText.ofString)) (by decide +kernel)
  have generic : (Prescan.scan (["scaffold", "--help", "--plugins", "helm.scaffold.dev/v7"].map
    RawText.ofString)).genericHelp = true := by decide
  have notCreate : ∀ e ∈ (initOnly (.version "scaffold")).extras, e.command.name ≠ "create" := by
    decide
  have keeps : (initOnly (.version "scaffold")).KeepsNames := by
    intro b hb p hp c hc
    obtain rfl := List.mem_singleton.1 hb
    obtain rfl := List.mem_singleton.1 hp
    rcases hc with ⟨kind, hc⟩ | ⟨word, hc⟩
    · dsimp only at hc
      split_ifs at hc with hkind
      obtain rfl := Option.some.inj hc
      exact fun command => rfl
    · cases hc
  obtain ⟨s', started', hnone⟩ := (generic_help_starts keeps started generic).1.2 notCreate
  exact ⟨s, s', started, started', hnone⟩

/-- A command of the host that is named like the group. -/
def createExtra : ExtraCommand where
  command := { name := "create" }
  run _ d := { directory := d }

/-- A plain run starts with a command of the host named `create`, general help does not. -/
theorem generic_help_clash :
    (bootstrap (initOnly createExtra) {} (["scaffold"].map RawText.ofString)).isOk = true ∧
      (Prescan.scan (["scaffold", "--help"].map RawText.ofString)).genericHelp = true ∧
      (bootstrap (initOnly createExtra) {}
        (["scaffold", "--help"].map RawText.ofString)).isOk = false :=
  ⟨by decide +kernel, by decide, by decide +kernel⟩

end Host

end Scaffolder
