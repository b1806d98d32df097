import Mathlib.Data.List.Nodup
import Scaffolder.Proofs.CommandTree

/-!
# The shape of a tree

Which commands a tree has and in which order, told by the plugins and the commands of the host alone, and
when there is no tree.

* **The groups** (`HasAlpha`, `HasCreate`, `Shown`): what has to be offered for a group, and for the
  subcommands of `create`. The commands that come from plugins are these groups and `init`
  (`pluginCommands_eq`).
* **Claims** (`claims`): a named subcommand goes to the first plugin that claims its name, so the names of the
  `alpha` group are those that are claimed, in the order of their first claims
  (`pairwise_names_firstOfEachName`).
* **Clashes** (`Clashes`): when the name of a command of the host is taken. A tree is built unless there is a
  clash (`exists_build_iff`), and it is the first clash that is reported.

`build_shape` puts this together: the first clash, or a tree of the shape `Shape`.
-/

namespace Scaffolder.CommandTree

/-! ## What plugins offer -/

/-- Whether a subcommand with a place of its own is shown: a plugin provides it, or no plugin is selected. -/
def Shown (plugins : List Plugin) (kind : SubcommandKind) : Prop :=
  plugins = [] ∨ ∃ p ∈ plugins, p.provides kind = true

instance (plugins : List Plugin) (kind : SubcommandKind) : Decidable (Shown plugins kind) :=
  inferInstanceAs (Decidable (plugins = [] ∨ ∃ p ∈ plugins, p.provides kind = true))

/-- Whether there is a `create` group: a plugin provides one of its subcommands, or no plugin is selected. -/
def HasCreate (plugins : List Plugin) : Prop :=
  plugins = [] ∨
    ∃ p ∈ plugins, p.provides .createApi = true ∨ p.provides .createWebhook = true

instance (plugins : List Plugin) : Decidable (HasCreate plugins) :=
  inferInstanceAs (Decidable (plugins = [] ∨
    ∃ p ∈ plugins, p.provides .createApi = true ∨ p.provides .createWebhook = true))

/-- Whether there is an `alpha` group: a plugin has a named subcommand. -/
def HasAlpha (plugins : List Plugin) : Prop := ∃ p ∈ plugins, p.alpha ≠ []

instance (plugins : List Plugin) : Decidable (HasAlpha plugins) :=
  inferInstanceAs (Decidable (∃ p ∈ plugins, p.alpha ≠ []))

/-- The names that plugins claim for their named subcommands, one after another. -/
def claims (plugins : List Plugin) : List String :=
  plugins.flatMap fun p => p.alpha.map Prod.fst

/-! ## First claims -/

/-- The names that are left are those that there were, but for the ones that were taken. -/
theorem mem_names_firstOfEachName {α : Type} {taken : List String} {es : List (String × α)}
    {word : String} :
    word ∈ (firstOfEachName taken es).map Prod.fst ↔ word ∈ es.map Prod.fst ∧ word ∉ taken := by
  induction es generalizing taken with
  | nil => simp [firstOfEachName]
  | cons e es ih =>
    unfold firstOfEachName
    split_ifs with htaken
    · have hmem : e.1 ∈ taken := List.contains_iff_mem.1 htaken
      rw [ih, List.map_cons, List.mem_cons]
      constructor
      · rintro ⟨hword, hfree⟩
        exact ⟨.inr hword, hfree⟩
      · rintro ⟨rfl | hword, hfree⟩
        · exact absurd hmem hfree
        · exact ⟨hword, hfree⟩
    · have hmem : e.1 ∉ taken := by simpa using htaken
      rw [List.map_cons, List.mem_cons, ih, List.map_cons, List.mem_cons, List.mem_cons]
      by_cases hword : word = e.1
      · simp [hword, hmem]
      · simp [hword]

/-- An element put in front of a list moves all others on. -/
theorem pairwise_idxOf_cons {word : String} {names all : List String} (fresh : word ∉ names)
    (h : names.Pairwise fun a b => all.idxOf a < all.idxOf b) :
    names.Pairwise fun a b => (word :: all).idxOf a < (word :: all).idxOf b := by
  apply h.imp_of_mem
  intro a b ha hb hlt
  have hane : word ≠ a := fun heq => fresh (heq ▸ ha)
  have hbne : word ≠ b := fun heq => fresh (heq ▸ hb)
  rw [List.idxOf_cons_ne _ hane, List.idxOf_cons_ne _ hbne]
  omega

/-- **Of names that come again the first is kept**, so the names stand in the order in which they came
first. -/
theorem pairwise_names_firstOfEachName {α : Type} (taken : List String) (es : List (String × α)) :
    ((firstOfEachName taken es).map Prod.fst).Pairwise fun a b =>
      (es.map Prod.fst).idxOf a < (es.map Prod.fst).idxOf b := by
  induction es generalizing taken with
  | nil => simp [firstOfEachName]
  | cons e es ih =>
    unfold firstOfEachName
    split_ifs with htaken
    · have hfresh : e.1 ∉ (firstOfEachName taken es).map Prod.fst := by
        intro h
        exact (mem_names_firstOfEachName.1 h).2 (List.contains_iff_mem.1 htaken)
      exact pairwise_idxOf_cons hfresh (ih taken)
    · have hfresh : e.1 ∉ (firstOfEachName (e.1 :: taken) es).map Prod.fst := by
        intro h
        exact (mem_names_firstOfEachName.1 h).2 List.mem_cons_self
      apply List.pairwise_cons.2
      refine ⟨?_, pairwise_idxOf_cons hfresh (ih _)⟩
      intro b hb
      have hne : e.1 ≠ b := fun heq => hfresh (heq ▸ hb)
      rw [List.map_cons, List.idxOf_cons_self, List.idxOf_cons_ne _ hne]
      omega

/-- The names that plugins offer are those that they claim. -/
theorem names_offeredAlpha (plugins : List Plugin) :
    (offeredAlpha plugins).map Prod.fst = claims plugins := by
  unfold offeredAlpha claims
  rw [List.map_flatMap]
  simp [Function.comp_def]

/-- **The names of the `alpha` group** are those that are claimed, in the order of their first claims. -/
theorem names_claimedAlpha (plugins : List Plugin) :
    (∀ word, word ∈ (claimedAlpha plugins).map Prod.fst ↔ word ∈ claims plugins) ∧
      ((claimedAlpha plugins).map Prod.fst).Pairwise fun a b =>
        (claims plugins).idxOf a < (claims plugins).idxOf b := by
  unfold claimedAlpha
  rw [← names_offeredAlpha]
  refine ⟨?_, pairwise_names_firstOfEachName [] (offeredAlpha plugins)⟩
  intro word
  rw [mem_names_firstOfEachName]
  simp

/-- The commands of the `alpha` group have the names that are claimed. -/
theorem names_alphaCommand {plugins : List Plugin} (keeps : ∀ p ∈ plugins, p.KeepsNames) :
    (alphaCommand plugins).subcommandNames = (claimedAlpha plugins).map Prod.fst := by
  unfold alphaCommand Command.subcommandNames
  rw [List.map_map]
  apply List.map_congr_left
  intro a ha
  obtain ⟨hplugin, hoffer⟩ := of_mem_claimedAlpha ha
  exact keeps a.2.plugin hplugin _ (.inr ⟨a.1, hoffer⟩) _

/-! ## The commands that come from plugins -/

/-- A plugin provides a subcommand unless none has it. -/
theorem exists_provides_iff {plugins : List Plugin} {kind : SubcommandKind} :
    (∃ p ∈ plugins, p.provides kind = true) ↔ ¬ ∀ q ∈ plugins, q.subcommand kind = none := by
  simp [Plugin.provides, Option.isSome_iff_ne_none]

/-- A subcommand of the `create` group that is shown has its name. -/
theorem names_createSubcommand {plugins : List Plugin} (keeps : ∀ p ∈ plugins, p.KeepsNames)
    (kind : SubcommandKind) (word about : String) :
    (createSubcommand plugins kind word about).map Command.name =
      if Shown plugins kind then [word] else [] := by
  unfold createSubcommand Shown
  simp only [exists_provides_iff]
  cases hwire : wire plugins kind { name := word, about := some about } with
  | none =>
    have hmissing := wire_eq_none_iff.1 hwire
    by_cases hnone : plugins = []
    · simp [hnone]
    · simpa [hnone] using hmissing
  | some c =>
    obtain ⟨p, s, hfirst, -⟩ := wire_eq_some_iff.1 hwire
    have hprovided : ¬ ∀ q ∈ plugins, q.subcommand kind = none := by
      intro hmissing
      have hnone := hmissing p hfirst.mem.1
      rw [show p.subcommand kind = some s from hfirst.mem.2] at hnone
      cases hnone
    have hname : c.name = word := name_of_wire keeps hwire
    simp [hprovided, hname]

/-- The subcommands of the `create` group. -/
theorem names_createCommand {plugins : List Plugin} (keeps : ∀ p ∈ plugins, p.KeepsNames) :
    (createCommand plugins).subcommandNames =
      (if Shown plugins .createApi then ["api"] else []) ++
        if Shown plugins .createWebhook then ["webhook"] else [] := by
  unfold createCommand Command.subcommandNames
  rw [List.map_append, names_createSubcommand keeps, names_createSubcommand keeps]

/-- There is a `create` group if one of its subcommands is shown. -/
theorem hasCreate_iff {plugins : List Plugin} :
    HasCreate plugins ↔ Shown plugins .createApi ∨ Shown plugins .createWebhook := by
  unfold HasCreate Shown
  constructor
  · rintro (hnone | ⟨p, hp, happ | hweb⟩)
    · exact .inl (.inl hnone)
    · exact .inl (.inr ⟨p, hp, happ⟩)
    · exact .inr (.inr ⟨p, hp, hweb⟩)
  · rintro ((hnone | ⟨p, hp, happ⟩) | (hnone | ⟨p, hp, hweb⟩))
    · exact .inl hnone
    · exact .inr ⟨p, hp, .inl happ⟩
    · exact .inl hnone
    · exact .inr ⟨p, hp, .inr hweb⟩

/-- A group is left out if it has no names below it. -/
theorem unlessEmpty_eq (group : Command) :
    unlessEmpty group = if group.subcommandNames = [] then [] else [group] := by
  unfold unlessEmpty Command.subcommandNames
  simp

/-- The `alpha` group is left out if no plugin has a named subcommand. -/
theorem unlessEmpty_alpha {plugins : List Plugin} (keeps : ∀ p ∈ plugins, p.KeepsNames) :
    unlessEmpty (alphaCommand plugins) = if HasAlpha plugins then [alphaCommand plugins] else [] := by
  have hempty : (alphaCommand plugins).subcommandNames = [] ↔ ¬ HasAlpha plugins := by
    rw [names_alphaCommand keeps, List.eq_nil_iff_forall_not_mem]
    simp only [(names_claimedAlpha plugins).1]
    rw [← List.eq_nil_iff_forall_not_mem]
    simp [claims, HasAlpha]
  rw [unlessEmpty_eq]
  simp only [hempty, ite_not]

/-- The `create` group is left out if none of its subcommands is shown. -/
theorem unlessEmpty_create {plugins : List Plugin} (keeps : ∀ p ∈ plugins, p.KeepsNames) :
    unlessEmpty (createCommand plugins) =
      if HasCreate plugins then [createCommand plugins] else [] := by
  have hempty : (createCommand plugins).subcommandNames = [] ↔ ¬ HasCreate plugins := by
    rw [names_createCommand keeps, hasCreate_iff]
    simp
  rw [unlessEmpty_eq]
  simp only [hempty, ite_not]

/-- **The commands that come from plugins** are the groups that there are, and `init`. -/
theorem pluginCommands_eq (r : Registry) {plugins : List Plugin}
    (keeps : ∀ p ∈ plugins, p.KeepsNames) :
    pluginCommands r plugins =
      (if HasAlpha plugins then [alphaCommand plugins] else []) ++
        (if HasCreate plugins then [createCommand plugins] else []) ++ [initCommand r plugins] := by
  unfold pluginCommands
  rw [unlessEmpty_alpha keeps, unlessEmpty_create keeps]

/-- The names that are taken by the commands that come from plugins. -/
theorem names_pluginCommands (r : Registry) {plugins : List Plugin}
    (keeps : ∀ p ∈ plugins, p.KeepsNames) :
    (pluginCommands r plugins).map Command.name =
      (if HasAlpha plugins then ["alpha"] else []) ++
        (if HasCreate plugins then ["create"] else []) ++ ["init"] := by
  rw [pluginCommands_eq r keeps, List.map_append, List.map_append, List.map_singleton,
    name_initCommand r keeps, apply_ite (List.map Command.name), apply_ite (List.map Command.name)]
  rfl

/-! ## Clashes -/

/-- Whether the name of a command of the host is taken, where some others were added before it. -/
inductive Clashes (plugins : List Plugin) (before : List ExtraCommand) : String → Prop
  /-- There is always `init`. -/
  | init : Clashes plugins before "init"
  /-- There is a `create` group. -/
  | create (group : HasCreate plugins) : Clashes plugins before "create"
  /-- There is an `alpha` group. -/
  | alpha (group : HasAlpha plugins) : Clashes plugins before "alpha"
  /-- An earlier command of the host has the name. -/
  | earlier {e : ExtraCommand} (added : e ∈ before) : Clashes plugins before e.command.name

/-- A name is taken if a command that comes from plugins has it, or one that was added before. -/
theorem clashes_iff {plugins : List Plugin} (keeps : ∀ p ∈ plugins, p.KeepsNames)
    {before : List ExtraCommand} {word : String} (r : Registry) :
    Clashes plugins before word ↔
      word ∈ (pluginCommands r plugins).map Command.name ++ before.map fun e => e.command.name := by
  rw [names_pluginCommands r keeps]
  constructor
  · intro h
    cases h with
    | init => simp
    | create group => simp [group]
    | alpha group => simp [group]
    | earlier added => simp [List.mem_map_of_mem added]
  · intro h
    rw [List.mem_append, List.mem_append, List.mem_append] at h
    rcases h with ((halpha | hcreate) | hinit) | hearlier
    · split_ifs at halpha with group
      · obtain rfl := List.mem_singleton.1 halpha
        exact .alpha group
      · cases halpha
    · split_ifs at hcreate with group
      · obtain rfl := List.mem_singleton.1 hcreate
        exact .create group
      · cases hcreate
    · obtain rfl := List.mem_singleton.1 hinit
      exact .init
    · obtain ⟨e, added, rfl⟩ := List.mem_map.1 hearlier
      exact .earlier added

section

variable {name : String} {r : Registry} {plugins : List Plugin} {extras : List ExtraCommand}
  {t : CommandTree}

/-- **A tree is built exactly if there is no clash.** -/
theorem exists_build_iff (keeps : ∀ p ∈ plugins, p.KeepsNames) :
    (∃ t, build name r plugins extras = .ok t) ↔
      ∀ before e after, extras = before ++ e :: after → ¬ Clashes plugins before e.command.name := by
  constructor
  · rintro ⟨t, built⟩ before e after rfl hclash
    obtain ⟨free, distinct, -⟩ := build_eq_ok_iff.1 built
    rw [clashes_iff keeps r, List.mem_append] at hclash
    rcases hclash with hplugins | hearlier
    · exact free e (by simp) hplugins
    · rw [List.map_append, List.map_cons] at distinct
      exact List.disjoint_of_nodup_append distinct hearlier List.mem_cons_self
  · intro free
    rcases hbuild : build name r plugins extras with taken | t
    · obtain ⟨before, e, after, -, hextras, -, rfl, htaken⟩ := build_eq_error_iff.1 hbuild
      exact absurd ((clashes_iff keeps r).2 htaken) (free before e after hextras)
    · exact ⟨t, rfl⟩

/-- What a tree for some plugins and some commands of a host looks like. -/
structure Shape (plugins : List Plugin) (extras : List ExtraCommand) (t : CommandTree) : Prop where
  /-- Below the root command stand the groups that there are, `init` and the commands of the host. Below
  `alpha` stand the named subcommands, and below `create` those of its two that are shown. -/
  commands : ∃ alpha create init : Command,
    t.root.subcommands =
        (if HasAlpha plugins then [alpha] else []) ++ (if HasCreate plugins then [create] else []) ++
          [init] ++ extras.map ExtraCommand.command ∧
      alpha.name = "alpha" ∧ alpha.subcommandNames = t.alphaNames ∧
      create.name = "create" ∧
      create.subcommandNames =
        (if Shown plugins .createApi then ["api"] else []) ++
          (if Shown plugins .createWebhook then ["webhook"] else []) ∧
      init.name = "init"
  /-- The names below the root command. -/
  names : t.root.subcommandNames =
    (if HasAlpha plugins then ["alpha"] else []) ++ (if HasCreate plugins then ["create"] else []) ++
      ["init"] ++ extras.map fun e => e.command.name
  /-- No name stands below the root command twice. -/
  distinct : t.root.subcommandNames.Nodup
  /-- The named subcommands are those whose names are claimed. -/
  claimed : ∀ word, word ∈ t.alphaNames ↔ ∃ p ∈ plugins, word ∈ p.alpha.map Prod.fst
  /-- They stand in the order of their first claims. -/
  inOrder : t.alphaNames.Pairwise fun a b => (claims plugins).idxOf a < (claims plugins).idxOf b
  /-- No two of them have the same name. -/
  alphaDistinct : t.alphaNames.Nodup
  /-- A named subcommand is that of the first plugin that claims the name. -/
  named : ∀ word p,
    t.alpha.lookup word = some p ↔ ∃ s, p.IsFirst (fun q => q.alpha.lookup word) plugins s
  /-- A subcommand with a place of its own is that of the first plugin that provides it. -/
  provided : ∀ kind p,
    t.provider kind = some p ↔ ∃ s, p.IsFirst (fun q => q.subcommand kind) plugins s

/-- The names of the named subcommands of a tree are those that are claimed. -/
theorem alphaNames_of_build (built : build name r plugins extras = .ok t) :
    t.alphaNames = (claimedAlpha plugins).map Prod.fst := by
  unfold alphaNames
  rw [(of_build built).2.1, List.map_map]
  rfl

/-- **A tree that is built has the shape.** -/
theorem shape_of_build (keeps : ∀ p ∈ plugins, p.KeepsNames)
    (built : build name r plugins extras = .ok t) : Shape plugins extras t := by
  have halpha := alphaNames_of_build built
  obtain ⟨claimed, inOrder⟩ := names_claimedAlpha plugins
  rw [← halpha] at claimed inOrder
  obtain ⟨free, distinct, rfl⟩ := build_eq_ok_iff.1 built
  have hroot : ((pluginCommands r plugins ++ extras.map ExtraCommand.command).map Command.name) =
      (pluginCommands r plugins).map Command.name ++ extras.map fun e => e.command.name := by
    simp [Function.comp_def]
  have hplugins : ((pluginCommands r plugins).map Command.name).Nodup := by
    rw [names_pluginCommands r keeps]
    split_ifs <;> simp
  have hfree : List.Disjoint ((pluginCommands r plugins).map Command.name)
      (extras.map fun e => e.command.name) := by
    intro word htaken hextra
    obtain ⟨e, he, rfl⟩ := List.mem_map.1 hextra
    exact free e he htaken
  refine
    { commands := ⟨alphaCommand plugins, createCommand plugins, initCommand r plugins, ?_, rfl,
        ?_, rfl, names_createCommand keeps, name_initCommand r keeps⟩
      names := ?_
      distinct := ?_
      claimed := ?_
      inOrder
      alphaDistinct := ?_
      named := fun word p => lookup_alpha_eq_some_iff
      provided := fun kind p => findProvider_eq_some_iff }
  · rw [← pluginCommands_eq r keeps]
  · rw [names_alphaCommand keeps]
    exact halpha.symm
  · rw [← names_pluginCommands r keeps]
    exact hroot
  · have hnodup := hplugins.append distinct hfree
    rw [← hroot] at hnodup
    exact hnodup
  · intro word
    have hclaims : word ∈ claims plugins ↔ ∃ p ∈ plugins, word ∈ p.alpha.map Prod.fst :=
      List.mem_flatMap
    exact (claimed word).trans hclaims
  · apply inOrder.imp
    intro a b hlt heq
    rw [heq] at hlt
    exact absurd hlt (Nat.lt_irrefl _)

/-! ## Main result -/

/-- **The tree of a run, or why there is none.**

1. There is no tree exactly if some command of the host has the name `init`, or that of a group that there
   is, or that of an earlier command of the host.
2. It is the name of the first such command that is reported.
3. Otherwise the tree has the shape: the groups that there are, `init` and the commands of the host, in this
   order and with names of their own; below the groups what plugins offer; and everything from the first
   plugin that offers it. -/
theorem build_shape (name : String) (r : Registry) {plugins : List Plugin}
    (keeps : ∀ p ∈ plugins, p.KeepsNames) (extras : List ExtraCommand) :
    ((∃ taken, build name r plugins extras = .error taken) ↔
      ∃ before e after, extras = before ++ e :: after ∧ Clashes plugins before e.command.name) ∧
    (∀ taken, build name r plugins extras = .error taken ↔
      ∃ before e after, extras = before ++ e :: after ∧ e.command.name = taken ∧
        Clashes plugins before e.command.name ∧
        ∀ before' e' after', before = before' ++ e' :: after' →
          ¬ Clashes plugins before' e'.command.name) ∧
    (∀ t, build name r plugins extras = .ok t → Shape plugins extras t) := by
  refine ⟨?_, ?_, fun t => shape_of_build keeps⟩
  · constructor
    · rintro ⟨taken, hbuild⟩
      obtain ⟨before, e, after, -, hextras, -, rfl, htaken⟩ := build_eq_error_iff.1 hbuild
      exact ⟨before, e, after, hextras, (clashes_iff keeps r).2 htaken⟩
    · rintro ⟨before, e, after, hextras, hclash⟩
      rcases hbuild : build name r plugins extras with taken | t
      · exact ⟨taken, rfl⟩
      · exact absurd hclash ((exists_build_iff keeps).1 ⟨t, hbuild⟩ before e after hextras)
  · intro taken
    rw [build_eq_error_iff]
    constructor
    · rintro ⟨before, e, after, t, hextras, hbefore, rfl, htaken⟩
      have hfirst := (exists_build_iff keeps).1 ⟨t, hbefore⟩
      exact ⟨before, e, after, hextras, rfl, (clashes_iff keeps r).2 htaken, hfirst⟩
    · rintro ⟨before, e, after, hextras, rfl, hclash, hfirst⟩
      obtain ⟨t, hbefore⟩ := (exists_build_iff keeps).2 hfirst
      exact ⟨before, e, after, t, hextras, hbefore, rfl, (clashes_iff keeps r).1 hclash⟩

end

/-- A subcommand that changes nothing. -/
def idle : Subcommand where
  run _ _ d := { directory := d }

/-- Two plugins that claim five names, three of them different. Only the second provides `init`, and both
provide `create webhook`. -/
def claimants : List Plugin :=
  [{ name := "chart.scaffold.dev", version := ⟨1, .stable⟩, projectVersions := [⟨"2"⟩]
     subcommand := fun kind => if kind = .createWebhook then some idle else none
     alpha := [("chart", idle), ("probe", idle), ("chart", idle)] },
   { name := "sound.scaffold.dev", version := ⟨1, .stable⟩, projectVersions := [⟨"2"⟩]
     subcommand := fun kind => if kind = .createApi then none else some idle
     alpha := [("sound", idle), ("probe", idle)] }]

/-- A command of a host that changes nothing. -/
def idleExtra (name : String) : ExtraCommand where
  command := { name }
  run _ d := { directory := d }

/-- All that these plugins have changes nothing. -/
theorem eq_idle_of_offers {p : Plugin} (hp : p ∈ claimants) {s : Subcommand} (h : p.Offers s) :
    s = idle := by
  have hkind : ∀ p ∈ claimants, ∀ kind s, p.subcommand kind = some s → s = idle := by
    simp [claimants, eq_comm]
  have hnamed : ∀ p ∈ claimants, ∀ a ∈ p.alpha, a.2 = idle := by
    simp +contextual [claimants, or_imp]
  rcases h with ⟨kind, hs⟩ | ⟨word, hs⟩
  · exact hkind p hp kind s hs
  · exact hnamed p hp _ hs

/-- The tree for these plugins with one command of the host, and the first clash of four. -/
theorem build_shape_claimants :
    (∃ t, build "scaffold" {} claimants [idleExtra "version"] = .ok t ∧
      t.root.subcommandNames = ["alpha", "create", "init", "version"] ∧
      t.alphaNames.Pairwise (fun a b =>
        ["chart", "probe", "chart", "sound", "probe"].idxOf a <
          ["chart", "probe", "chart", "sound", "probe"].idxOf b) ∧
      "sound" ∈ t.alphaNames) ∧
    build "scaffold" {} claimants
        [idleExtra "version", idleExtra "create", idleExtra "version", idleExtra "init"] =
      .error "create" := by
  have keeps : ∀ p ∈ claimants, p.KeepsNames := by
    intro p hp s hs
    obtain rfl : s = idle := eq_idle_of_offers hp hs
    exact fun c => rfl
  obtain ⟨t, built⟩ : ∃ t, build "scaffold" {} claimants [idleExtra "version"] = .ok t :=
    exists_build _ _ keeps (by decide) (by decide)
  constructor
  · obtain ⟨-, -, shaped⟩ := build_shape "scaffold" {} keeps [idleExtra "version"]
    have shape := shaped t built
    refine ⟨t, built, shape.names.trans (by decide), shape.inOrder, ?_⟩
    exact (shape.claimed "sound").2 ⟨_, List.mem_cons_of_mem _ List.mem_cons_self, by decide⟩
  · obtain ⟨-, first, -⟩ := build_shape "scaffold" {} keeps
      [idleExtra "version", idleExtra "create", idleExtra "version", idleExtra "init"]
    apply (first "create").2
    refine ⟨[idleExtra "version"], idleExtra "create", [idleExtra "version", idleExtra "init"], rfl, rfl,
      .create (by decide), (exists_build_iff keeps).1 ⟨t, built⟩⟩

end Scaffolder.CommandTree
