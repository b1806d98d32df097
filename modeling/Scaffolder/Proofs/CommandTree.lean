import Mathlib.Data.List.Nodup
import Mathlib.Tactic.SplitIfs
import Scaffolder.CommandTree.Choice
import Scaffolder.Proofs.Directory
import Scaffolder.Proofs.Registry

/-!
# The commands of a tree

Which commands a tree has, who provides them, and what can be chosen in it.

* **Providers** (`findProvider_eq_some_iff`, `lookup_alpha_eq_some_iff`): of the plugins that have a
  subcommand of some kind, or under some name, the first one is behind it (`Plugin.IsFirst`). So a plugin
  that the tree holds still has the subcommand when it is asked for it again.
* **Building** (`build_eq_ok_iff`, `build_eq_error_iff`): a tree is built unless a command of the host has the
  name of one that comes from plugins, or of another command of the host.
* **Looking up** (`subcommand?_root`): a name of a command of the host leads to that command, any other
  name to a command that comes from plugins.
* **Choosing** (`choose_isOf`, `reason_of_refused`): a handler that is chosen is one of the tree's.

What a plugin makes of a command is up to the plugin. The tree goes by the names of commands, so where names
matter a plugin is assumed to keep them (`Plugin.KeepsNames`).
-/

namespace Scaffolder

/-- Whether a plugin has a subcommand, with a place of its own in the tree or with a name. -/
def Plugin.Offers (p : Plugin) (s : Subcommand) : Prop :=
  (∃ kind, p.subcommand kind = some s) ∨ ∃ name, (name, s) ∈ p.alpha

/-- How a subcommand with a place of its own is called. -/
def SubcommandKind.label : SubcommandKind → String
  | .init => "init"
  | .createApi => "create api"
  | .createWebhook => "create webhook"

/-- Whether a subcommand leaves the name of the command that it configures. -/
def Subcommand.KeepsName (s : Subcommand) : Prop := ∀ c, (s.configure c).name = c.name

/-- Whether all subcommands of a plugin leave the names of the commands that they configure. -/
def Plugin.KeepsNames (p : Plugin) : Prop := ∀ s, p.Offers s → s.KeepsName

/-- Whether a plugin is the first of some plugins that have a subcommand of some sort, and what it has. -/
def Plugin.IsFirst (has : Plugin → Option Subcommand) (plugins : List Plugin) (p : Plugin)
    (s : Subcommand) : Prop :=
  ∃ before after, plugins = before ++ p :: after ∧ (∀ q ∈ before, has q = none) ∧ has p = some s

/-- The first plugin of some is one of them. -/
theorem Plugin.IsFirst.mem {has : Plugin → Option Subcommand} {plugins : List Plugin} {p : Plugin}
    {s : Subcommand} (h : p.IsFirst has plugins s) : p ∈ plugins ∧ has p = some s := by
  obtain ⟨before, after, rfl, -, hp⟩ := h
  exact ⟨by simp, hp⟩

namespace CommandTree

/-! ## Providers -/

/-- **The plugin behind a subcommand with a place of its own.** -/
theorem findProvider_eq_some_iff {plugins : List Plugin} {kind : SubcommandKind} {p : Plugin} :
    findProvider plugins kind = some p ↔ ∃ s, p.IsFirst (fun q => q.subcommand kind) plugins s := by
  unfold findProvider
  rw [List.find?_eq_some_iff_append]
  constructor
  · rintro ⟨hp, before, after, rfl, hbefore⟩
    obtain ⟨s, hs⟩ := Option.isSome_iff_exists.1 hp
    refine ⟨s, before, after, rfl, fun q hq => ?_, hs⟩
    simpa [Plugin.provides] using hbefore q hq
  · rintro ⟨s, before, after, rfl, hbefore, hp⟩
    refine ⟨Option.isSome_of_eq_some hp, before, after, rfl, fun q hq => ?_⟩
    simp [Plugin.provides, hbefore q hq]

/-- No plugin is behind a subcommand that none has. -/
theorem findProvider_eq_none_iff {plugins : List Plugin} {kind : SubcommandKind} :
    findProvider plugins kind = none ↔ ∀ q ∈ plugins, q.subcommand kind = none := by
  unfold findProvider
  simp [Plugin.provides]

/-- The plugin behind a subcommand has it. -/
theorem of_findProvider {plugins : List Plugin} {kind : SubcommandKind} {p : Plugin}
    (h : findProvider plugins kind = some p) : p ∈ plugins ∧ ∃ s, p.subcommand kind = some s := by
  obtain ⟨s, hs⟩ := findProvider_eq_some_iff.1 h
  exact ⟨hs.mem.1, s, hs.mem.2⟩

/-- **Who configures a command:** the first plugin that has the subcommand. -/
theorem wire_eq_some_iff {plugins : List Plugin} {kind : SubcommandKind} {plain c : Command} :
    wire plugins kind plain = some c ↔
      ∃ (p : Plugin) (s : Subcommand),
        p.IsFirst (fun q => q.subcommand kind) plugins s ∧ s.configure plain = c := by
  unfold wire
  simp only [Option.bind_eq_bind, Option.bind_eq_some_iff, findProvider_eq_some_iff, Option.pure_def,
    Option.some.injEq]
  constructor
  · rintro ⟨p, ⟨s, hfirst⟩, s', hs', rfl⟩
    obtain rfl := Option.some.inj (hfirst.mem.2.symm.trans hs')
    exact ⟨p, s, hfirst, rfl⟩
  · rintro ⟨p, s, hfirst, rfl⟩
    exact ⟨p, ⟨s, hfirst⟩, s, hfirst.mem.2, rfl⟩

/-- No one configures a command that no plugin has. -/
theorem wire_eq_none_iff {plugins : List Plugin} {kind : SubcommandKind} {plain : Command} :
    wire plugins kind plain = none ↔ ∀ q ∈ plugins, q.subcommand kind = none := by
  rw [← findProvider_eq_none_iff]
  unfold wire
  cases h : findProvider plugins kind with
  | none => simp
  | some p =>
    obtain ⟨-, s, hs⟩ := of_findProvider h
    simp [hs]

/-- What is left of a list is in the list. -/
theorem mem_firstOfEachName {α : Type} {taken : List String} {e : String × α}
    {es : List (String × α)} (h : e ∈ firstOfEachName taken es) : e ∈ es := by
  induction es generalizing taken with
  | nil => exact h
  | cons e' es ih =>
    unfold firstOfEachName at h
    split at h
    · exact List.mem_cons_of_mem _ (ih h)
    · rcases List.mem_cons.1 h with rfl | h
      · exact List.mem_cons_self
      · exact List.mem_cons_of_mem _ (ih h)

/-- Leaving out what comes again under a name does not change what is found first. -/
theorem lookup_firstOfEachName {α : Type} {taken : List String} {name : String} (h : name ∉ taken)
    (es : List (String × α)) : (firstOfEachName taken es).lookup name = es.lookup name := by
  induction es generalizing taken with
  | nil => rfl
  | cons e es ih =>
    unfold firstOfEachName
    split_ifs with htaken
    · have hne : (name == e.1) = false := by
        apply beq_false_of_ne
        rintro rfl
        exact h (List.contains_iff_mem.1 htaken)
      rw [ih h, List.lookup_cons, hne]
    · by_cases hname : name = e.1
      · rw [List.lookup_cons, List.lookup_cons, beq_iff_eq.2 hname]
      · have hnext : name ∉ e.1 :: taken := by simp [hname, h]
        rw [List.lookup_cons, List.lookup_cons, beq_false_of_ne hname]
        exact ih hnext

/-- What a plugin offers under a name. -/
theorem lookup_offers (p : Plugin) (name : String) (alpha : List (String × Subcommand)) :
    (alpha.map fun a => (a.1, Offer.mk p a.2)).lookup name =
      (alpha.lookup name).map fun s => ⟨p, s⟩ := by
  induction alpha with
  | nil => rfl
  | cons a alpha ih =>
    rw [List.map_cons, List.lookup_cons, List.lookup_cons, ih]
    cases name == a.1 with
    | true => rfl
    | false => rfl

/-- What some plugins offer under a name is what the first of them does that has the name. -/
theorem lookup_offeredAlpha (plugins : List Plugin) (name : String) :
    (offeredAlpha plugins).lookup name =
      plugins.findSome? fun q => (q.alpha.lookup name).map fun s => ⟨q, s⟩ := by
  induction plugins with
  | nil => rfl
  | cons p plugins ih =>
    have hcons : offeredAlpha (p :: plugins) =
        (p.alpha.map fun a => (a.1, Offer.mk p a.2)) ++ offeredAlpha plugins := rfl
    rw [hcons, List.lookup_append, lookup_offers, ih, List.findSome?_cons]
    rcases p.alpha.lookup name with _ | s
    · rfl
    · rfl

/-- **Who claims a name:** the first plugin that has a subcommand of that name. -/
theorem lookup_claimedAlpha {plugins : List Plugin} {name : String} {o : Offer} :
    (claimedAlpha plugins).lookup name = some o ↔
      o.plugin.IsFirst (fun q => q.alpha.lookup name) plugins o.subcommand := by
  unfold claimedAlpha
  rw [lookup_firstOfEachName List.not_mem_nil, lookup_offeredAlpha, List.findSome?_eq_some_iff]
  constructor
  · rintro ⟨before, q, after, rfl, hq, hbefore⟩
    obtain ⟨s, hs, rfl⟩ := Option.map_eq_some_iff.1 hq
    refine ⟨before, after, rfl, fun q' hq' => ?_, hs⟩
    exact Option.map_eq_none_iff.1 (hbefore q' hq')
  · rintro ⟨before, after, rfl, hbefore, ho⟩
    refine ⟨before, o.plugin, after, rfl, ?_, fun q hq => ?_⟩
    · exact Option.map_eq_some_iff.2 ⟨o.subcommand, ho, rfl⟩
    · exact Option.map_eq_none_iff.2 (hbefore q hq)

/-- **The plugin behind a named subcommand.** -/
theorem lookup_alpha_eq_some_iff {plugins : List Plugin} {name : String} {p : Plugin} :
    ((claimedAlpha plugins).map fun a => (a.1, a.2.plugin)).lookup name = some p ↔
      ∃ s, p.IsFirst (fun q => q.alpha.lookup name) plugins s := by
  have hmap : ((claimedAlpha plugins).map fun a => (a.1, a.2.plugin)).lookup name =
      ((claimedAlpha plugins).lookup name).map Offer.plugin := by
    induction claimedAlpha plugins with
    | nil => rfl
    | cons a rest ih =>
      rw [List.map_cons, List.lookup_cons, List.lookup_cons, ih]
      cases name == a.1 with
      | true => rfl
      | false => rfl
  rw [hmap, Option.map_eq_some_iff]
  constructor
  · rintro ⟨o, ho, rfl⟩
    exact ⟨o.subcommand, lookup_claimedAlpha.1 ho⟩
  · rintro ⟨s, hs⟩
    exact ⟨⟨p, s⟩, lookup_claimedAlpha.2 hs, rfl⟩

/-- A named subcommand that is claimed is one that the plugin has. -/
theorem of_mem_claimedAlpha {plugins : List Plugin} {name : String} {o : Offer}
    (h : (name, o) ∈ claimedAlpha plugins) :
    o.plugin ∈ plugins ∧ (name, o.subcommand) ∈ o.plugin.alpha := by
  obtain ⟨q, hq, ha⟩ := List.mem_flatMap.1 (mem_firstOfEachName h)
  obtain ⟨⟨name', s⟩, hs, heq⟩ := List.mem_map.1 ha
  obtain ⟨rfl, rfl⟩ := Prod.mk.inj heq
  exact ⟨hq, hs⟩

/-! ## Building -/

/-- A group that is there has a subcommand. -/
theorem of_mem_unlessEmpty {c group : Command} (h : c ∈ unlessEmpty group) :
    c = group ∧ group.subcommands ≠ [] := by
  unfold unlessEmpty at h
  split_ifs at h with hempty
  · cases h
  · exact ⟨List.mem_singleton.1 h, fun hnil => hempty (List.isEmpty_iff.2 hnil)⟩

/-- The command that a plugin configures has the name that it had. -/
theorem name_of_wire {plugins : List Plugin} {kind : SubcommandKind} {plain c : Command}
    (keeps : ∀ p ∈ plugins, p.KeepsNames) (h : wire plugins kind plain = some c) :
    c.name = plain.name := by
  obtain ⟨p, s, hfirst, rfl⟩ := wire_eq_some_iff.1 h
  exact keeps p hfirst.mem.1 s (.inl ⟨kind, hfirst.mem.2⟩) plain

/-- The command that makes a project is called `init`. -/
theorem name_initCommand (r : Registry) {plugins : List Plugin}
    (keeps : ∀ p ∈ plugins, p.KeepsNames) : (initCommand r plugins).name = "init" := by
  unfold initCommand
  dsimp only
  split
  · next c hwire => exact name_of_wire keeps hwire
  · rfl

/-- The commands that come from plugins. -/
theorem of_mem_pluginCommands {r : Registry} {plugins : List Plugin} {c : Command}
    (h : c ∈ pluginCommands r plugins) :
    (c = alphaCommand plugins ∧ c.subcommands ≠ []) ∨
      (c = createCommand plugins ∧ c.subcommands ≠ []) ∨ c = initCommand r plugins := by
  unfold pluginCommands at h
  rw [List.mem_append, List.mem_append, List.mem_singleton] at h
  rcases h with (halpha | hcreate) | hinit
  · obtain ⟨rfl, hne⟩ := of_mem_unlessEmpty halpha
    exact .inl ⟨rfl, hne⟩
  · obtain ⟨rfl, hne⟩ := of_mem_unlessEmpty hcreate
    exact .inr (.inl ⟨rfl, hne⟩)
  · exact .inr (.inr hinit)

/-- The commands that come from plugins have one of three names. -/
theorem name_of_mem_pluginCommands {r : Registry} {plugins : List Plugin} {c : Command}
    (keeps : ∀ p ∈ plugins, p.KeepsNames) (h : c ∈ pluginCommands r plugins) :
    c.name = "alpha" ∨ c.name = "create" ∨ c.name = "init" := by
  rcases of_mem_pluginCommands h with ⟨rfl, -⟩ | ⟨rfl, -⟩ | rfl
  · exact .inl rfl
  · exact .inr (.inl rfl)
  · exact .inr (.inr (name_initCommand r keeps))

/-- **Commands of the host can be added** if their names are not taken, not by one another either. -/
theorem addExtras_eq_ok_iff {root c : Command} {extras : List ExtraCommand} :
    addExtras root extras = .ok c ↔
      (∀ e ∈ extras, e.command.name ∉ root.subcommandNames) ∧
        (extras.map fun e => e.command.name).Nodup ∧
        c = { root with subcommands := root.subcommands ++ extras.map ExtraCommand.command } := by
  induction extras generalizing root with
  | nil =>
    obtain ⟨name, about, longAbout, afterHelp, needs, help, arguments, subcommands⟩ := root
    simp [addExtras, eq_comm]
  | cons e es ih =>
    have hnames : (root.addSubcommand e.command).subcommandNames =
        root.subcommandNames ++ [e.command.name] := List.map_append
    unfold addExtras
    split_ifs with htaken
    · have hmem : e.command.name ∈ root.subcommandNames := List.contains_iff_mem.1 htaken
      constructor
      · intro h
        cases h
      · rintro ⟨free, -⟩
        exact absurd hmem (free e List.mem_cons_self)
    · have hfree : e.command.name ∉ root.subcommandNames := by simpa using htaken
      rw [ih, hnames, List.map_cons, List.nodup_cons]
      have hroot : { root.addSubcommand e.command with
          subcommands := (root.addSubcommand e.command).subcommands ++ es.map ExtraCommand.command } =
          { root with
            subcommands := root.subcommands ++ (e :: es).map ExtraCommand.command } := by
        simp [Command.addSubcommand]
      rw [hroot]
      constructor
      · rintro ⟨free, distinct, rfl⟩
        refine ⟨?_, ⟨?_, distinct⟩, rfl⟩
        · intro e' he'
          rcases List.mem_cons.1 he' with rfl | he'
          · exact hfree
          · exact fun hmem => free e' he' (List.mem_append_left _ hmem)
        · intro hmem
          obtain ⟨e', he', hname⟩ := List.mem_map.1 hmem
          exact free e' he' (by simp [hname])
      · rintro ⟨free, ⟨hnew, distinct⟩, rfl⟩
        refine ⟨?_, distinct, rfl⟩
        intro e' he' hmem
        rcases List.mem_append.1 hmem with hmem | hmem
        · exact free e' (List.mem_cons_of_mem _ he') hmem
        · rw [List.mem_singleton] at hmem
          exact hnew (hmem ▸ List.mem_map_of_mem he')

/-- The first command of the host is added if its name is free, and then the others. -/
theorem addExtras_cons (root : Command) (e : ExtraCommand) (es : List ExtraCommand) :
    addExtras root (e :: es) =
      if root.subcommandNames.contains e.command.name then .error e.command.name
      else addExtras (root.addSubcommand e.command) es := rfl

/-- Adding goes on where it has stopped. -/
theorem addExtras_append (root : Command) (before after : List ExtraCommand) :
    addExtras root (before ++ after) = addExtras root before >>= fun c => addExtras c after := by
  induction before generalizing root with
  | nil => rfl
  | cons e es ih =>
    rw [List.cons_append, addExtras_cons, addExtras_cons]
    split_ifs with htaken
    · rfl
    · exact ih (root.addSubcommand e.command)

/-- Adding commands of the host adds their names. -/
theorem subcommandNames_of_addExtras {root c : Command} {extras : List ExtraCommand}
    (h : addExtras root extras = .ok c) :
    c.subcommandNames = root.subcommandNames ++ extras.map fun e => e.command.name := by
  obtain ⟨-, -, rfl⟩ := addExtras_eq_ok_iff.1 h
  simp [Command.subcommandNames]

/-- **The name that stops the adding** is that of a command of the host, up to which all could be added.
The root command or one of those has it already. -/
theorem addExtras_eq_error_iff {root : Command} {extras : List ExtraCommand} {name : String} :
    addExtras root extras = .error name ↔
      ∃ before e after c, extras = before ++ e :: after ∧ addExtras root before = .ok c ∧
        e.command.name = name ∧ name ∈ root.subcommandNames ++ before.map fun e => e.command.name := by
  constructor
  · intro h
    induction extras generalizing root with
    | nil => cases h
    | cons e es ih =>
      rw [addExtras_cons] at h
      split_ifs at h with htaken
      · obtain rfl := Except.error.inj h
        refine ⟨[], e, es, root, rfl, rfl, rfl, ?_⟩
        simpa using List.contains_iff_mem.1 htaken
      · obtain ⟨before, e', after, c, rfl, hadded, rfl, hwhere⟩ := ih h
        refine ⟨e :: before, e', after, c, rfl, ?_, rfl, ?_⟩
        · rw [addExtras_cons, if_neg htaken, hadded]
        · simpa [Command.subcommandNames, Command.addSubcommand] using hwhere
  · rintro ⟨before, e, after, c, rfl, hadded, rfl, htaken⟩
    rw [addExtras_append, hadded]
    show addExtras c (e :: after) = _
    rw [addExtras_cons, subcommandNames_of_addExtras hadded, if_pos (List.contains_iff_mem.2 htaken)]

section

variable {name : String} {r : Registry} {plugins : List Plugin} {extras : List ExtraCommand}
  {t : CommandTree}

/-- **When a tree is built,** and what is in it. -/
theorem build_eq_ok_iff : build name r plugins extras = .ok t ↔
    (∀ e ∈ extras, e.command.name ∉ (pluginCommands r plugins).map Command.name) ∧
      (extras.map fun e => e.command.name).Nodup ∧
      t =
        { root := { rootCommand name with
            subcommands := pluginCommands r plugins ++ extras.map ExtraCommand.command }
          generic := plugins.isEmpty
          provider := findProvider plugins
          alpha := (claimedAlpha plugins).map fun a => (a.1, a.2.plugin)
          extras } := by
  unfold build
  rw [bind_eq_ok]
  simp only [addExtras_eq_ok_iff]
  constructor
  · rintro ⟨root, ⟨free, distinct, rfl⟩, h⟩
    exact ⟨free, distinct, (Except.ok.inj h).symm⟩
  · rintro ⟨free, distinct, rfl⟩
    exact ⟨_, ⟨free, distinct, rfl⟩, rfl⟩

/-- What is in a tree beside its commands. -/
theorem of_build (h : build name r plugins extras = .ok t) :
    t.provider = findProvider plugins ∧
      t.alpha = ((claimedAlpha plugins).map fun a => (a.1, a.2.plugin)) ∧ t.extras = extras := by
  obtain ⟨-, -, rfl⟩ := build_eq_ok_iff.1 h
  exact ⟨rfl, rfl, rfl⟩

/-- The root command of a tree. -/
theorem root_of_build (h : build name r plugins extras = .ok t) :
    t.root = { rootCommand name with
      subcommands := pluginCommands r plugins ++ extras.map ExtraCommand.command } ∧
      t.generic = plugins.isEmpty := by
  obtain ⟨-, -, rfl⟩ := build_eq_ok_iff.1 h
  exact ⟨rfl, rfl⟩

/-- **A tree is built** whatever plugins are selected, if the commands of the host have names of their
own, other than those of the commands that come from plugins. -/
theorem exists_build (name : String) (r : Registry) {plugins : List Plugin}
    (keeps : ∀ p ∈ plugins, p.KeepsNames) {extras : List ExtraCommand}
    (free : ∀ e ∈ extras, e.command.name ∉ ["alpha", "create", "init"])
    (distinct : (extras.map fun e => e.command.name).Nodup) :
    ∃ t, build name r plugins extras = .ok t := by
  refine ⟨_, build_eq_ok_iff.2 ⟨?_, distinct, rfl⟩⟩
  intro e he htaken
  obtain ⟨c, hc, hname⟩ := List.mem_map.1 htaken
  apply free e he
  rw [← hname]
  simpa using name_of_mem_pluginCommands keeps hc

/-- **Where no tree is built,** a command of the host has a name that is taken, by a command that comes
from plugins or by an earlier command of the host. Up to that command, a tree could be built. -/
theorem build_eq_error_iff {taken : String} : build name r plugins extras = .error taken ↔
    ∃ before e after t, extras = before ++ e :: after ∧ build name r plugins before = .ok t ∧
      e.command.name = taken ∧
      taken ∈ (pluginCommands r plugins).map Command.name ++ before.map fun e => e.command.name := by
  have hbuild : ∀ extras, build name r plugins extras =
      addExtras { rootCommand name with subcommands := pluginCommands r plugins } extras >>= fun root =>
        .ok { root, generic := plugins.isEmpty, provider := findProvider plugins
              alpha := (claimedAlpha plugins).map fun a => (a.1, a.2.plugin), extras } := fun _ => rfl
  rw [hbuild, bind_eq_error]
  constructor
  · rintro (h | ⟨c, -, h⟩)
    · obtain ⟨before, e, after, c, rfl, hadded, hname, htaken⟩ := addExtras_eq_error_iff.1 h
      have hbefore := (hbuild before).trans (bind_eq_ok.2 ⟨c, hadded, rfl⟩)
      exact ⟨before, e, after, _, rfl, hbefore, hname, htaken⟩
    · cases h
  · rintro ⟨before, e, after, t, hextras, hbefore, hname, htaken⟩
    rw [hbuild] at hbefore
    obtain ⟨c, hadded, -⟩ := bind_eq_ok.1 hbefore
    exact .inl (addExtras_eq_error_iff.2 ⟨before, e, after, c, hextras, hadded, hname, htaken⟩)

/-! ## Looking up -/

/-- **What a name leads to:** the command of the host that has it, or else a command that comes from
plugins. -/
theorem subcommand?_root (h : build name r plugins extras = .ok t) (word : String) :
    t.root.subcommand? word =
      match extras.find? fun e => e.command.name = word with
      | some e => some e.command
      | none => (pluginCommands r plugins).find? fun c => c.name = word := by
  obtain ⟨free, -, rfl⟩ := build_eq_ok_iff.1 h
  unfold Command.subcommand?
  rw [List.find?_append, List.find?_map]
  rcases hfind : extras.find? fun e => e.command.name = word with _ | e
  · have hnone : extras.find? ((fun c : Command => decide (c.name = word)) ∘ ExtraCommand.command) =
        none := hfind
    rw [hnone, hfind]
    exact Option.or_none
  · have hsome : extras.find? ((fun c : Command => decide (c.name = word)) ∘ ExtraCommand.command) =
        some e := hfind
    have hplugins : (pluginCommands r plugins).find? (fun c => decide (c.name = word)) = none := by
      rw [List.find?_eq_none]
      intro c hc hname
      have hword : e.command.name = word := by simpa using List.find?_some hfind
      apply free e (List.mem_of_find?_eq_some hfind)
      rw [hword, ← of_decide_eq_true hname]
      exact List.mem_map_of_mem hc
    rw [hplugins, hsome, hfind]
    rfl

end

/-! ## Choosing -/

/-- Whether the handler of a choice is one of the tree's. -/
def Choice.IsOf (t : CommandTree) : Choice → Prop
  | .help => True
  | .extra e _ => e ∈ t.extras
  | .provided label p s _ =>
      ∃ kind, label = kind.label ∧ t.provider kind = some p ∧ p.subcommand kind = some s
  | .named label p s _ =>
      ∃ name, label = "alpha " ++ name ∧ t.alpha.lookup name = some p ∧ p.alpha.lookup name = some s
  | .refused _ => True

/-- The choice of a subcommand with a place of its own is what the plugin behind it has. -/
theorem chooseProvided_isOf (t : CommandTree) (kind : SubcommandKind) (m : MatchedCommand) :
    (t.chooseProvided kind.label kind m).IsOf t := by
  unfold chooseProvided
  split
  · exact trivial
  · next p hp =>
    split
    · exact trivial
    · next s hs => exact ⟨kind, rfl, hp, hs⟩

/-- The choice of a named subcommand is what the plugin behind it has. -/
theorem chooseNamed_isOf (t : CommandTree) (name : String) (m : MatchedCommand) :
    (t.chooseNamed name m).IsOf t := by
  unfold chooseNamed
  dsimp only
  split
  · exact trivial
  · next p hp =>
    split
    · exact trivial
    · next s hs => exact ⟨name, rfl, hp, hs⟩

/-- **What is chosen is one of the tree's.** -/
theorem choose_isOf (t : CommandTree) (levels : List MatchedCommand) :
    (t.choose levels).IsOf t := by
  unfold choose
  split
  · exact trivial
  · next m below =>
    split
    · next e he => exact List.mem_of_find?_eq_some he
    · split
      · exact t.chooseProvided_isOf .init m
      · next leaf _ _ =>
        split
        · exact t.chooseProvided_isOf .createApi leaf
        · split
          · exact t.chooseProvided_isOf .createWebhook leaf
          · exact trivial
      · exact t.chooseNamed_isOf _ _
      · exact trivial

/-- **Why a choice is refused:** no plugin provides the subcommand, or there is no such command. -/
theorem reason_of_refused {t : CommandTree} {levels : List MatchedCommand} {reason : String}
    (h : t.choose levels = .refused reason) :
    (∃ label, reason = t.unavailable label) ∨ ∃ name, reason = "unknown command '" ++ name ++ "'" := by
  have provided : ∀ label kind m, t.chooseProvided label kind m = .refused reason →
      ∃ label, reason = t.unavailable label := by
    intro label kind m h
    unfold chooseProvided at h
    split at h
    · exact ⟨label, (Choice.refused.inj h).symm⟩
    · split at h
      · exact ⟨label, (Choice.refused.inj h).symm⟩
      · cases h
  have named : ∀ name m, t.chooseNamed name m = .refused reason →
      ∃ label, reason = t.unavailable label := by
    intro name m h
    unfold chooseNamed at h
    dsimp only at h
    split at h
    · exact ⟨_, (Choice.refused.inj h).symm⟩
    · split at h
      · exact ⟨_, (Choice.refused.inj h).symm⟩
      · cases h
  unfold choose at h
  split at h
  · cases h
  · split at h
    · cases h
    · split at h
      · exact .inl (provided _ _ _ h)
      · split_ifs at h
        · exact .inl (provided _ _ _ h)
        · exact .inl (provided _ _ _ h)
        · exact .inr ⟨_, (Choice.refused.inj h).symm⟩
      · exact .inl (named _ _ h)
      · exact .inr ⟨_, (Choice.refused.inj h).symm⟩

/-- What a user is told who asks for a subcommand where no plugin is selected. -/
def needsPlugin (label : String) : String :=
  "'" ++ label ++ "' needs a resolved plugin. " ++ runInProjectMessage

/-- Where plugins are selected, no choice is refused for want of one. -/
theorem choose_ne_needsPlugin {t : CommandTree} (selected : t.generic = false)
    (levels : List MatchedCommand) (label : String) :
    t.choose levels ≠ .refused (needsPlugin label) := by
  intro h
  have hquote : (needsPlugin label).toList.head? = some '\'' := by
    simp [needsPlugin]
  rcases reason_of_refused h with ⟨label', hreason⟩ | ⟨name, hreason⟩
  · unfold unavailable at hreason
    rw [selected] at hreason
    simp [hreason] at hquote
  · simp [hreason] at hquote

end CommandTree

end Scaffolder
