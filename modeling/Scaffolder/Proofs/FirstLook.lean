import Scaffolder.Proofs.Arguments.Agreement
import Scaffolder.Proofs.Lifecycle

/-!
# What the first look finds is what is asked for

A run is started with what the first look at its arguments has found, and only then are the arguments
matched. Where they are accepted, the run was started with the right plugin key and version.

* **The host** gives its commands no arguments, and the subcommands of its plugins have long arguments
  that leave the names of the flags alone (`Host.LongFlagsOnly`). No command is named like a flag
  (`Host.NamesPassedOver`); without that the two readers differ
  (`prescan_differs_on_flag_name`).
* **The tree** has only commands that the agreement of the readers is about (`tame_root`).
* **The run** (`prescan_agrees`): no help, no malformed flag, the version and the key that hold at the
  innermost command where they were given. So a plugin was selected.
-/

namespace Scaffolder

open Text (RawText)

/-! ## The commands of a tree -/

/-- Whether a subcommand adds nothing to a command but texts and long arguments that leave the flags of
every run alone. -/
structure Subcommand.AddsLongFlags (s : Subcommand) : Prop where
  /-- The command keeps its name. -/
  keepsName : s.KeepsName
  /-- The command gets no subcommands. -/
  subcommands : ∀ c, (s.configure c).subcommands = c.subcommands
  /-- The arguments that the command gets leave the flags alone. -/
  arguments : ∀ c, ∃ added, (s.configure c).arguments = c.arguments ++ added ∧
    ∀ a ∈ added, a.Ordinary

namespace Command

/-- Whether a command can stand below another in a tame tree. -/
def Fits (c : Command) : Prop := Prescan.PassesOver c.name ∧ c.Throughout Command.Tame

/-- A command is tame throughout, if its arguments are tame and its subcommands fit. -/
theorem throughout_tame {c : Command} (arguments : ∀ a ∈ c.arguments, a.Tame)
    (subcommands : ∀ sub ∈ c.subcommands, sub.Fits) : c.Throughout Command.Tame :=
  .intro ⟨arguments, fun sub hsub => (subcommands sub hsub).1⟩ fun sub hsub =>
    (subcommands sub hsub).2

/-- A command without arguments fits if its subcommands do. -/
theorem fits_of_no_arguments {c : Command} (name : Prescan.PassesOver c.name)
    (arguments : c.arguments = []) (subcommands : ∀ sub ∈ c.subcommands, sub.Fits) : c.Fits := by
  refine ⟨name, throughout_tame ?_ subcommands⟩
  rw [arguments]
  exact List.forall_mem_nil _

/-- A command fits that is made of a plain one by a subcommand that adds ordinary arguments alone. -/
theorem fits_configure {s : Subcommand} {c : Command} (name : Prescan.PassesOver c.name)
    (arguments : c.arguments = []) (subcommands : c.subcommands = [])
    (adds : s.AddsLongFlags) : (s.configure c).Fits := by
  obtain ⟨added, hadded, ordinary⟩ := adds.arguments c
  rw [arguments, List.nil_append] at hadded
  refine ⟨(adds.keepsName c).symm ▸ name, throughout_tame ?_ ?_⟩
  · rw [hadded]
    exact fun a ha => .inr (ordinary a ha)
  · rw [adds.subcommands, subcommands]
    exact List.forall_mem_nil _

end Command

namespace CommandTree

/-- A name that does not start with a dash is passed over. -/
theorem passesOver_of_head {word : String} {c : Char} (head : word.toList.head? = some c)
    (hc : c ≠ '-') : Prescan.PassesOver word := by
  obtain ⟨cs, hword⟩ := List.head?_eq_some_iff.1 head
  refine ⟨?_, ?_⟩
  · rw [hword]
    exact Arguments.classify_of_head cs hc
  · rintro rfl
    exact hc (Option.some.inj head).symm

section

variable {plugins : List Plugin} (adds : ∀ p ∈ plugins, ∀ s, p.Offers s → s.AddsLongFlags)

include adds

/-- A command fits that a plugin configures. -/
theorem fits_of_wire {kind : SubcommandKind} {plain c : Command} (name : Prescan.PassesOver plain.name)
    (arguments : plain.arguments = []) (subcommands : plain.subcommands = [])
    (h : wire plugins kind plain = some c) : c.Fits := by
  obtain ⟨p, s, hfirst, rfl⟩ := wire_eq_some_iff.1 h
  exact Command.fits_configure name arguments subcommands
    (adds p hfirst.mem.1 s (.inl ⟨kind, hfirst.mem.2⟩))

/-- The command that makes a project fits. -/
theorem fits_initCommand (r : Registry) : (initCommand r plugins).Fits := by
  have hname : Prescan.PassesOver "init" := passesOver_of_head (c := 'i') rfl (by decide)
  unfold initCommand
  dsimp only
  split
  · next c hwire => exact fits_of_wire adds hname rfl rfl hwire
  · exact Command.fits_of_no_arguments hname rfl (List.forall_mem_nil _)

/-- The subcommands of `create` fit. -/
theorem fits_createSubcommand {kind : SubcommandKind} {name about : String} {c : Command}
    (hname : Prescan.PassesOver name) (h : c ∈ createSubcommand plugins kind name about) :
    c.Fits := by
  unfold createSubcommand at h
  dsimp only at h
  split at h
  · next c' hwire =>
    obtain rfl := List.mem_singleton.1 h
    exact fits_of_wire adds hname rfl rfl hwire
  · split_ifs at h
    · obtain rfl := List.mem_singleton.1 h
      exact Command.fits_of_no_arguments hname rfl (List.forall_mem_nil _)
    · cases h

/-- The `create` group fits. -/
theorem fits_createCommand : (createCommand plugins).Fits := by
  have hname : Prescan.PassesOver "create" := passesOver_of_head (c := 'c') rfl (by decide)
  refine Command.fits_of_no_arguments hname rfl ?_
  intro sub hsub
  rcases List.mem_append.1 hsub with hsub | hsub
  · exact fits_createSubcommand adds (passesOver_of_head (c := 'a') rfl (by decide)) hsub
  · exact fits_createSubcommand adds (passesOver_of_head (c := 'w') rfl (by decide)) hsub

/-- The `alpha` group fits. -/
theorem fits_alphaCommand (names : ∀ p ∈ plugins, ∀ a ∈ p.alpha, Prescan.PassesOver a.1) :
    (alphaCommand plugins).Fits := by
  have hname : Prescan.PassesOver "alpha" := passesOver_of_head (c := 'a') rfl (by decide)
  refine Command.fits_of_no_arguments hname rfl ?_
  intro sub hsub
  obtain ⟨⟨name, o⟩, ho, rfl⟩ := List.mem_map.1 hsub
  obtain ⟨hmem, halpha⟩ := of_mem_claimedAlpha ho
  exact Command.fits_configure (names _ hmem _ halpha) rfl rfl
    (adds _ hmem _ (.inr ⟨name, halpha⟩))

/-- **The commands of a tree are tame,** if the arguments of the plugins' subcommands have nothing to do
with the flags of every run, and the named subcommands and the commands of the host fit. -/
theorem tame_root {name : String} {r : Registry} {extras : List ExtraCommand} {t : CommandTree}
    (names : ∀ p ∈ plugins, ∀ a ∈ p.alpha, Prescan.PassesOver a.1)
    (own : ∀ e ∈ extras, e.command.Fits) (h : build name r plugins extras = .ok t) :
    t.root.Throughout Command.Tame := by
  rw [(root_of_build h).1]
  apply Command.throughout_tame
  · intro a ha
    simp only [rootCommand, List.mem_cons, List.not_mem_nil, or_false] at ha
    rcases ha with rfl | rfl
    · exact .inl ⟨.projectVersion, rfl, rfl⟩
    · exact .inl ⟨.plugins, rfl, rfl⟩
  · intro sub hsub
    rcases List.mem_append.1 hsub with hsub | hsub
    · rcases of_mem_pluginCommands hsub with ⟨rfl, -⟩ | ⟨rfl, -⟩ | rfl
      · exact fits_alphaCommand adds names
      · exact fits_createCommand adds
      · exact fits_initCommand adds r
    · obtain ⟨e, he, rfl⟩ := List.mem_map.1 hsub
      exact own e he

end

end CommandTree

namespace GoLayout

/-- The arguments that name a resource leave the flags of every run alone. -/
theorem ordinary_resourceArguments : ∀ a ∈ resourceArguments, a.Ordinary := by
  intro a ha
  simp only [resourceArguments, List.mem_cons, List.not_mem_nil, or_false] at ha
  rcases ha with rfl | rfl | rfl
  all_goals exact ⟨⟨_, by decide, rfl⟩, by decide⟩

/-- **The built-in layouts leave the flags of every run alone.** -/
theorem IsLayout.addsLongFlags {p : Plugin} (h : IsLayout p) {c : Subcommand}
    (offered : p.Offers c) : c.AddsLongFlags := by
  obtain ⟨kind, rfl⟩ := h.exists_of_offers offered
  cases kind with
  | init =>
    refine ⟨fun _ => rfl, fun _ => rfl, fun _ => ⟨initArguments, rfl, ?_⟩⟩
    intro a ha
    simp only [initArguments, List.mem_cons, List.not_mem_nil, or_false] at ha
    rcases ha with rfl | rfl
    all_goals exact ⟨⟨_, by decide, rfl⟩, by decide⟩
  | createApi => exact ⟨fun _ => rfl, fun _ => rfl, fun _ => ⟨_, rfl, ordinary_resourceArguments⟩⟩
  | createWebhook =>
    refine ⟨fun _ => rfl, fun _ => rfl, fun _ => ⟨webhookArguments, rfl, ?_⟩⟩
    intro a ha
    simp only [webhookArguments, List.mem_append, List.mem_cons, List.not_mem_nil, or_false] at ha
    rcases ha with ha | rfl | rfl
    · exact ordinary_resourceArguments a ha
    all_goals exact ⟨⟨_, by decide, rfl⟩, by decide⟩

end GoLayout

/-! ## Hosts -/

namespace Host

/-- Whether the commands of a host have no arguments, and the subcommands of its plugins only long ones
that leave the flags of every run alone. -/
structure LongFlagsOnly (h : Host) : Prop where
  /-- The commands of the host have no arguments, nor have those below them. -/
  extras : ∀ e ∈ h.extras, e.command.Throughout fun c => c.arguments = []
  /-- The plugins' subcommands add arguments that have nothing to do with the flags, and nothing else. -/
  plugins : ∀ b ∈ h.batches, ∀ p ∈ b.plugins, ∀ s, p.Offers s → s.AddsLongFlags

/-- Whether the first look passes over the names that a host and its plugins give to commands. -/
structure NamesPassedOver (h : Host) : Prop where
  /-- The names of the commands of the host, and of those below them. -/
  extras : ∀ e ∈ h.extras, e.command.Throughout fun c => Prescan.PassesOver c.name
  /-- The names of the named subcommands. -/
  alpha : ∀ b ∈ h.batches, ∀ p ∈ b.plugins, ∀ a ∈ p.alpha, Prescan.PassesOver a.1

variable {h : Host} {d : Directory} {argv : List RawText} {s : Session}
  {levels : List MatchedCommand}

/-- A command of the host fits, under what is assumed of it. -/
theorem fits_extra (flags : h.LongFlagsOnly) (names : h.NamesPassedOver) {e : ExtraCommand}
    (he : e ∈ h.extras) : e.command.Fits := by
  have fits : ∀ c : Command, c.Throughout (fun c => c.arguments = []) →
      c.Throughout (fun c => Prescan.PassesOver c.name) → c.Fits := by
    intro c harguments
    induction harguments with
    | intro here below ih =>
      intro hnames
      refine Command.fits_of_no_arguments hnames.here here ?_
      intro sub hsub
      exact ih sub hsub (hnames.of_mem hsub)
  exact fits _ (flags.extras e he) (names.extras e he)

/-- The commands of a run that starts are tame. -/
theorem tame_of_bootstrap (flags : h.LongFlagsOnly) (names : h.NamesPassedOver)
    (started : h.bootstrap d argv = .ok s) : s.tree.root.Throughout Command.Tame := by
  obtain ⟨r, registered, _, hselection, htree, _⟩ := bootstrap_eq_ok_iff.1 started
  refine CommandTree.tame_root ?_ ?_ (fun e he => fits_extra flags names he) (tree_eq_ok_iff.1 htree)
  · intro p hp
    obtain ⟨b, hb, hpb⟩ := mem_batches_of_selection registered hselection hp
    exact flags.plugins b hb p hpb
  · intro p hp
    obtain ⟨b, hb, hpb⟩ := mem_batches_of_selection registered hselection hp
    exact names.alpha b hb p hpb

/-- The tree of a run is built for a plugin unless general help is asked for. -/
theorem generic_of_bootstrap (started : h.bootstrap d argv = .ok s) :
    s.tree.generic = (Prescan.scan argv).genericHelp := by
  obtain ⟨r, _, _, hselection, htree, _⟩ := bootstrap_eq_ok_iff.1 started
  rw [(CommandTree.root_of_build (tree_eq_ok_iff.1 htree)).2]
  rcases selection_eq_ok_iff.1 hselection with ⟨hgeneric, hs⟩ | ⟨hgeneric, _, t, hselect, hs⟩
  · rw [hs, hgeneric]
    rfl
  · obtain ⟨p, rfl, _⟩ := Request.exists_of_select hselect
    rw [hs, hgeneric]
    rfl

/-- The value that is recorded for a flag at the innermost command where it is given. -/
def recorded (read : List MatchedCommand) (flag : ValueFlag) : Option String :=
  (Arguments.innermost? read flag.long).bind List.head?

/-- The two flags are arguments of the root command, and global. -/
theorem mem_globals_root (started : h.bootstrap d argv = .ok s) (flag : ValueFlag) :
    ∃ a ∈ s.tree.root.arguments, a.global = true ∧ a.id = flag.long := by
  obtain ⟨_, _, _, _, htree, _⟩ := bootstrap_eq_ok_iff.1 started
  rw [(CommandTree.root_of_build (tree_eq_ok_iff.1 htree)).1]
  cases flag with
  | projectVersion => exact ⟨_, List.mem_cons_self, rfl, rfl⟩
  | plugins => exact ⟨_, List.mem_cons_of_mem _ List.mem_cons_self, rfl, rfl⟩

/-- Values that are given hold a first one. -/
theorem isSome_bind_head?_iff {values : Option (List String)} (h : values ≠ some []) :
    (values.bind List.head?).isSome = true ↔ values.isSome = true := by
  rcases values with _ | _ | ⟨v, vs⟩
  · simp
  · exact absurd rfl h
  · simp

/-- A flag is found if it is given on some level. -/
theorem isSome_innermost?_iff {read : List MatchedCommand} {id : String} :
    (Arguments.innermost? read id).isSome = true ↔ ∃ m ∈ read, m.has id = true := by
  unfold Arguments.innermost? MatchedCommand.has
  simp [List.findSome?_isSome_iff]

/-- **What the first look finds is what is asked for.** Let a run start whose arguments are accepted.
Then the first look saw no request for help, and general help is not shown; so a plugin is selected, and
no choice is refused for want of one. A version is asked for exactly if one is recorded for some
command, and it and the plugin key are the values recorded at the innermost command where they were
given. All commands are given these values in the end. -/
theorem prescan_agrees (flags : h.LongFlagsOnly) (names : h.NamesPassedOver)
    (started : h.bootstrap d argv = .ok s) (accepted : s.tree.root.matches s.arguments = .ok levels) :
    (Prescan.scan argv).help = false ∧ (Prescan.scan argv).genericHelp = false ∧
      s.tree.generic = false ∧
      (∀ label, s.choice? ≠ some (.refused (CommandTree.needsPlugin label))) ∧
      ∃ read, Arguments.matchFrom [] s.tree.root {} s.arguments = .ok read ∧
        ((Prescan.scan argv).versionSet = true ↔
          ∃ m ∈ read, m.has ValueFlag.projectVersion.long = true) ∧
        (Prescan.scan argv).requested =
          (recorded read .projectVersion).map ProjectVersion.mk ∧
        (Prescan.scan argv).key = Text.trim ((recorded read .plugins).getD "") ∧
        ∀ m ∈ levels, ∀ flag : ValueFlag, m.value? flag.long = recorded read flag := by
  have htame := tame_of_bootstrap flags names started
  obtain ⟨read, hread, hshared⟩ := Command.exists_matchFrom_of_matches accepted
  obtain ⟨q, hsettle, hreading⟩ := Arguments.reads_of_matchFrom (List.forall_mem_nil _)
    (htame.mono fun c hc a ha => (hc.1 a ha).kind_ne_rest) rfl rfl hread
  obtain rfl := Except.ok.inj hsettle
  have hargs : s.arguments = argv.tail := by
    obtain ⟨_, _, _, _, _, _, _, hargs⟩ := bootstrap_eq_ok_iff.1 started
    exact hargs
  have hknows : (Prescan.scan argv).Knows fun flag => Arguments.innermost? read flag.long := by
    have hstart : ({} : Prescan).Knows fun _ => none := ⟨rfl, rfl, rfl, rfl, fun _ h => by cases h⟩
    have hend := Arguments.knows_of_reads hreading (List.forall_mem_nil _) htame hstart
    rw [hargs] at hend
    simp only [Option.or_none] at hend
    exact hend
  have hgeneric : (Prescan.scan argv).genericHelp = false := by
    unfold Prescan.genericHelp
    rw [hknows.malformed, hknows.help]
    rfl
  have hselected : s.tree.generic = false := (generic_of_bootstrap started).trans hgeneric
  refine ⟨hknows.help, hgeneric, hselected, ?_, read, hread, ?_, hknows.requested, ?_, ?_⟩
  · intro label hchoice
    unfold Session.choice? at hchoice
    rw [accepted] at hchoice
    exact CommandTree.choose_ne_needsPlugin hselected _ label (Option.some.inj hchoice)
  · unfold Prescan.versionSet
    rw [hknows.requested, Option.isSome_map, isSome_bind_head?_iff (hknows.hasValue .projectVersion)]
    exact isSome_innermost?_iff
  · unfold Prescan.key
    rw [hknows.rawKey]
    rfl
  · intro m hm flag
    obtain ⟨a, ha, hglobal, hid⟩ := mem_globals_root started flag
    have hlookup := hshared a ha hglobal m hm
    rw [hid] at hlookup
    unfold MatchedCommand.value? recorded
    rw [hlookup]

/-! The host whose default is a plugin of its own, and one with a command that is named like a flag. -/

/-- The plugins of the host with a twin add long flags only. -/
theorem plugins_of_twins : ∀ b ∈ twins.batches, ∀ p ∈ b.plugins, ∀ s, p.Offers s →
    s.AddsLongFlags :=
  fun _ hb _ hp _ offered => (isLayout_of_twins hb hp).addsLongFlags offered

/-- A run that gives the flags twice, in both forms. -/
def flagsRun : List RawText :=
  ["scaffold", "--project-version", "2", "--plugins=go.scaffold.dev/v2", "init",
    "--project-version=3-alpha", "--plugins", " go.scaffold.dev/v3-alpha ", "--domain", "-",
    "--"].map RawText.ofString

/-- Whether a run starts and its arguments are accepted. -/
def accepts : Except BootstrapError Session → Bool
  | .ok s => (s.tree.root.matches s.arguments).isOk
  | .error _ => false

/-- Where a run accepts its arguments, it starts and matches them. -/
theorem exists_of_accepts {x : Except BootstrapError Session} (h : accepts x = true) :
    ∃ s levels, x = .ok s ∧ s.tree.root.matches s.arguments = .ok levels := by
  cases x with
  | error e => cases h
  | ok s =>
    obtain ⟨levels, hlevels⟩ := exists_eq_ok h
    exact ⟨s, levels, rfl, hlevels⟩

/-- The first look finds the values at the inner command. -/
theorem prescan_agrees_nested :
    ∃ s levels, twins.bootstrap {} flagsRun = .ok s ∧
      s.tree.root.matches s.arguments = .ok levels ∧
      s.tree.generic = false ∧
      ∀ m ∈ levels, m.value? ValueFlag.projectVersion.long = some "3-alpha" ∧
        Text.trim ((m.value? ValueFlag.plugins.long).getD "") = "go.scaffold.dev/v3-alpha" := by
  have flags : twins.LongFlagsOnly := by
    refine ⟨?_, plugins_of_twins⟩
    intro e he
    obtain rfl := List.mem_singleton.1 he
    exact .intro rfl (List.forall_mem_nil _)
  have names : twins.NamesPassedOver := by
    refine ⟨?_, ?_⟩
    · intro e he
      obtain rfl := List.mem_singleton.1 he
      exact .intro (CommandTree.passesOver_of_head (c := 'v') rfl (by decide))
        (List.forall_mem_nil _)
    · intro b hb p hp
      obtain ⟨version, versions, serial, rfl⟩ := isLayout_of_twins hb hp
      exact List.forall_mem_nil _
  obtain ⟨s, levels, started, accepted⟩ :=
    exists_of_accepts (x := twins.bootstrap {} flagsRun) (by decide +kernel)
  obtain ⟨_, _, selected, _, read, _, _, hrequested, hkey, hlevels⟩ :=
    prescan_agrees flags names started accepted
  refine ⟨s, levels, started, accepted, selected, fun m hm => ⟨?_, ?_⟩⟩
  · have hversion : (Prescan.scan flagsRun).requested = some ⟨"3-alpha"⟩ := by decide
    rw [hversion, ← hlevels m hm .projectVersion] at hrequested
    obtain ⟨v, hv, hmk⟩ := Option.map_eq_some_iff.1 hrequested.symm
    rw [hv, ProjectVersion.mk.inj hmk]
  · have hscan : (Prescan.scan flagsRun).key = "go.scaffold.dev/v3-alpha" := by decide
    rw [← hscan, hkey, hlevels m hm .plugins]

/-- The host with a command that is named like a flag. -/
def flagNamed : Host where
  batches := Request.twinBatches
  extras := [{ command := { name := "--plugins" }, run := fun _ d => { directory := d } }]

/-- The name of a command goes before flags when arguments are matched, but the first look knows no
commands: it takes the name for a flag without a value. -/
theorem prescan_differs_on_flag_name :
    flagNamed.LongFlagsOnly ∧ ∃ s levels,
      flagNamed.bootstrap {} (["scaffold", "--plugins"].map RawText.ofString) = .ok s ∧
        s.tree.root.matches s.arguments = .ok levels ∧
        (Prescan.scan (["scaffold", "--plugins"].map RawText.ofString)).genericHelp = true := by
  refine ⟨⟨?_, plugins_of_twins⟩, ?_⟩
  · intro e he
    obtain rfl := List.mem_singleton.1 he
    exact .intro rfl (List.forall_mem_nil _)
  · obtain ⟨s, levels, started, accepted⟩ := exists_of_accepts
      (x := flagNamed.bootstrap {} (["scaffold", "--plugins"].map RawText.ofString))
      (by decide +kernel)
    exact ⟨s, levels, started, accepted, by decide⟩

end Host

end Scaffolder
