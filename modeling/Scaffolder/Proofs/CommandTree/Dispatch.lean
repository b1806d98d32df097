import Scaffolder.Proofs.Arguments.Descent
import Scaffolder.Proofs.Runs

/-!
# What is matched is what is run

A tree is built from the subcommands of plugins and the commands of a host, and a handler is chosen by
the names of the commands that were matched. The two look things up independently, and agree.

* **What should be chosen** (`Dispatches`) is said in terms of the plugins and the commands of the host,
  with the commands that have read the arguments: a subcommand is chosen whose own command has read them.
  Only one choice can be such a one, the one that is made (`Dispatches.choose_eq`).
* **The paths of a tree** (`of_leads`): down from the root command, and past the names of the host, there
  is nothing but `init`, the two subcommands of `create` and the named ones of `alpha`.
* **What is chosen** (`dispatches_choose`) is what should be.

`dispatch` puts this together with what the arguments were read by (`Arguments.Descends`).
-/

namespace Scaffolder

open Text (RawText)

/-- The names that lead to a subcommand with a place of its own. -/
def SubcommandKind.path : SubcommandKind → List String
  | .init => ["init"]
  | .createApi => ["create", "api"]
  | .createWebhook => ["create", "webhook"]

/-- How many commands lead to a subcommand with a place of its own. -/
def SubcommandKind.depth : SubcommandKind → Nat
  | .init => 0
  | .createApi => 1
  | .createWebhook => 1

/-- Whether a command is what a subcommand makes of a plain one of a name. -/
def Subcommand.Shapes (s : Subcommand) (name : String) (c : Command) : Prop :=
  ∃ plain : Command, plain.name = name ∧ plain.arguments = [] ∧ plain.subcommands = [] ∧
    c = s.configure plain

namespace CommandTree

/-- `Dispatches plugins extras path levels choice`: what is to be chosen where the commands on a path have
read the arguments of these levels. -/
inductive Dispatches (plugins : List Plugin) (extras : List ExtraCommand) :
    List Command → List MatchedCommand → Choice → Prop
  /-- A command of the host, which has read the arguments. -/
  | extra {path : List Command} {levels : List MatchedCommand} {e : ExtraCommand} {m : MatchedCommand}
      (own : e ∈ extras) (named : m.name = e.command.name) (given : levels.head? = some m)
      (reader : path.head? = some e.command) : Dispatches plugins extras path levels (.extra e m)
  /-- A subcommand with a place of its own, of the first plugin that provides it. Its command has read the
  arguments. -/
  | provided {path : List Command} {levels : List MatchedCommand} {kind : SubcommandKind} {p : Plugin}
      {s : Subcommand} {c : Command} {m : MatchedCommand}
      (names : kind.path <+: levels.map MatchedCommand.name)
      (free : ∀ e ∈ extras, kind.path.head? ≠ some e.command.name)
      (first : p.IsFirst (fun q => q.subcommand kind) plugins s) (given : levels[kind.depth]? = some m)
      (reader : path[kind.depth]? = some c) (shaped : s.Shapes m.name c) :
      Dispatches plugins extras path levels (.provided kind.label p s m)
  /-- A named subcommand, of the first plugin that has one of the name, and the first that it has. Its
  command has read the arguments. -/
  | named {path : List Command} {levels : List MatchedCommand} {name : String} {p : Plugin}
      {s : Subcommand} {c : Command} {m : MatchedCommand}
      (names : ["alpha", name] <+: levels.map MatchedCommand.name)
      (free : ∀ e ∈ extras, e.command.name ≠ "alpha")
      (first : p.IsFirst (fun q => q.alpha.lookup name) plugins s) (given : levels[1]? = some m)
      (reader : path[1]? = some c) (shaped : s.Shapes m.name c) :
      Dispatches plugins extras path levels (.named ("alpha " ++ name) p s m)
  /-- Nothing, since there are plugins but none of them provides `init`. -/
  | withoutInit {path : List Command} {levels : List MatchedCommand}
      (names : levels.map MatchedCommand.name = ["init"])
      (free : ∀ e ∈ extras, e.command.name ≠ "init") (selected : plugins ≠ [])
      (missing : ∀ q ∈ plugins, q.subcommand .init = none) :
      Dispatches plugins extras path levels (.refused "no resolved plugin provides 'init'")
  /-- Nothing, since there are no plugins. -/
  | placeholder {path : List Command} {levels : List MatchedCommand} {kind : SubcommandKind}
      (names : levels.map MatchedCommand.name = kind.path)
      (free : ∀ e ∈ extras, kind.path.head? ≠ some e.command.name) (nobody : plugins = []) :
      Dispatches plugins extras path levels (.refused (needsPlugin kind.label))

/-! ## The paths of a tree -/

section

variable {name : String} {r : Registry} {plugins : List Plugin} {extras : List ExtraCommand}
  {t : CommandTree}

/-- What stands at the place of a subcommand: its command if a plugin provides it. -/
def Fills (plugins : List Plugin) (kind : SubcommandKind) (c : Command) : Prop :=
  (∃ (p : Plugin) (s : Subcommand),
      p.IsFirst (fun q => q.subcommand kind) plugins s ∧ s.Shapes c.name c) ∨
    ((∀ q ∈ plugins, q.subcommand kind = none) ∧ (plugins = [] ∨ kind = .init) ∧ c.subcommands = [])

/-- What a plugin configures stands at the place of its subcommand, under the name that it had. -/
theorem fills_of_wire (keeps : ∀ p ∈ plugins, p.KeepsNames) {kind : SubcommandKind}
    {plain c : Command} (arguments : plain.arguments = []) (subcommands : plain.subcommands = [])
    (h : wire plugins kind plain = some c) : c.name = plain.name ∧ Fills plugins kind c := by
  have hname := name_of_wire keeps h
  obtain ⟨p, s, hfirst, rfl⟩ := wire_eq_some_iff.1 h
  exact ⟨hname, .inl ⟨p, s, hfirst, plain, hname.symm, arguments, subcommands, rfl⟩⟩

/-- What stands at the place of `init`. -/
theorem fills_initCommand (r : Registry) (keeps : ∀ p ∈ plugins, p.KeepsNames) :
    Fills plugins .init (initCommand r plugins) := by
  unfold initCommand
  dsimp only
  split
  · next c hwire => exact (fills_of_wire keeps rfl rfl hwire).2
  · next hwire => exact .inr ⟨wire_eq_none_iff.1 hwire, .inr rfl, rfl⟩

/-- What stands at the place of a subcommand of `create`, if anything. -/
theorem fills_createSubcommand (keeps : ∀ p ∈ plugins, p.KeepsNames) {kind : SubcommandKind}
    {word about : String} {c : Command} (h : c ∈ createSubcommand plugins kind word about) :
    c.name = word ∧ Fills plugins kind c := by
  unfold createSubcommand at h
  dsimp only at h
  split at h
  · next c' hwire =>
    obtain rfl := List.mem_singleton.1 h
    exact fills_of_wire keeps rfl rfl hwire
  · next hwire =>
    split_ifs at h with hempty
    · obtain rfl := List.mem_singleton.1 h
      exact ⟨rfl, .inr ⟨wire_eq_none_iff.1 hwire, .inl (List.isEmpty_iff.1 hempty), rfl⟩⟩
    · cases h

/-- The subcommands of the `create` group. -/
theorem of_mem_create (keeps : ∀ p ∈ plugins, p.KeepsNames) {c : Command}
    (h : c ∈ (createCommand plugins).subcommands) :
    ∃ kind, ["create", c.name] = SubcommandKind.path kind ∧ kind.depth = 1 ∧ Fills plugins kind c := by
  rcases List.mem_append.1 h with h | h
  · obtain ⟨hname, hfills⟩ := fills_createSubcommand keeps h
    exact ⟨.createApi, by rw [hname]; rfl, rfl, hfills⟩
  · obtain ⟨hname, hfills⟩ := fills_createSubcommand keeps h
    exact ⟨.createWebhook, by rw [hname]; rfl, rfl, hfills⟩

/-- The subcommands of the `alpha` group. -/
theorem subcommand?_alpha (keeps : ∀ p ∈ plugins, p.KeepsNames) (word : String) :
    (alphaCommand plugins).subcommand? word =
      ((claimedAlpha plugins).lookup word).map fun o => o.subcommand.configure { name := word } := by
  have hkeeps : ∀ a ∈ claimedAlpha plugins, a.2.subcommand.KeepsName := by
    intro a ha
    obtain ⟨hplugin, hoffer⟩ := of_mem_claimedAlpha ha
    exact keeps a.2.plugin hplugin _ (.inr ⟨a.1, hoffer⟩)
  unfold alphaCommand Command.subcommand?
  revert hkeeps
  induction claimedAlpha plugins with
  | nil => exact fun _ => rfl
  | cons a es ih =>
    intro hkeeps
    have hname : (a.2.subcommand.configure { name := a.1 }).name = a.1 :=
      hkeeps a List.mem_cons_self _
    rw [List.map_cons, List.find?_cons, List.lookup_cons, hname]
    by_cases hword : word = a.1
    · simp [hword]
    · simp only [Ne.symm hword, decide_false, beq_false_of_ne hword]
      exact ih fun a ha => hkeeps a (List.mem_cons_of_mem _ ha)

/-- **Where a path leads that does not start with a name of the host's:** to a subcommand with a place of
its own, or to a named one. -/
theorem of_leads (built : build name r plugins extras = .ok t)
    (keeps : ∀ p ∈ plugins, p.KeepsNames) {c : Command} {path : List Command}
    (leads : t.root.Leads (c :: path))
    (free : extras.find? (fun e => e.command.name = c.name) = none) :
    (∃ kind leaf, kind.path <+: (c :: path).map Command.name ∧ (c :: path)[kind.depth]? = some leaf ∧
        Fills plugins kind leaf ∧
        (leaf.subcommands = [] → (c :: path).map Command.name = kind.path)) ∨
      ∃ word leaf, ∃ (p : Plugin) (s : Subcommand),
        ["alpha", word] <+: (c :: path).map Command.name ∧ (c :: path)[1]? = some leaf ∧
        p.IsFirst (fun q => q.alpha.lookup word) plugins s ∧ leaf.name = word ∧
        s.Shapes word leaf := by
  cases leads with
  | down found further =>
    rw [subcommand?_root built, free] at found
    rcases of_mem_pluginCommands (List.mem_of_find?_eq_some found) with
      ⟨rfl, -⟩ | ⟨rfl, -⟩ | rfl
    · right
      cases further with
      | stay enough => cases enough
      | down found further =>
        rename_i leaf path
        rw [subcommand?_alpha keeps] at found
        obtain ⟨o, ho, hleaf⟩ := Option.map_eq_some_iff.1 found
        refine ⟨leaf.name, leaf, o.plugin, o.subcommand, List.prefix_append _ _, rfl,
          lookup_claimedAlpha.1 ho, rfl, { name := leaf.name }, rfl, rfl, rfl, hleaf.symm⟩
    · left
      cases further with
      | stay enough => cases enough
      | down found further =>
        rename_i leaf path
        obtain ⟨kind, hpath, hdepth, hfills⟩ := of_mem_create keeps (List.mem_of_find?_eq_some found)
        refine ⟨kind, leaf, ?_, by rw [hdepth]; rfl, hfills, fun hnone => ?_⟩
        · rw [← hpath]
          exact List.prefix_append _ _
        · obtain rfl := further.eq_nil hnone
          exact hpath
    · left
      have hname := name_initCommand r keeps
      refine ⟨.init, _, ?_, rfl, fills_initCommand r keeps, fun hnone => ?_⟩
      · rw [List.map_cons, hname]
        exact List.prefix_append _ _
      · obtain rfl := further.eq_nil hnone
        rw [List.map_singleton, hname]
        rfl

/-! ## What is chosen -/

/-- A name that no command of the host has leads to none. -/
theorem find?_eq_none_of_free {word : String} (free : ∀ e ∈ extras, e.command.name ≠ word) :
    extras.find? (fun e => e.command.name = word) = none := by
  rw [List.find?_eq_none]
  intro e he hname
  exact free e he (of_decide_eq_true hname)

/-- The name of a command of the host chooses that command. -/
theorem choose_extra {m : MatchedCommand} {e : ExtraCommand} (below : List MatchedCommand)
    (h : t.extras.find? (fun e => e.command.name = m.name) = some e) :
    t.choose (m :: below) = .extra e m := by
  simp only [choose, h]

/-- Where the names start that lead to a subcommand with a place of its own, its level can be found. -/
theorem exists_of_prefix {kind : SubcommandKind} {levels : List MatchedCommand}
    (names : kind.path <+: levels.map MatchedCommand.name) : ∃ m, levels[kind.depth]? = some m := by
  obtain ⟨rest, hrest⟩ := names
  have hlength : kind.depth < levels.length := by
    have hnames := congrArg List.length hrest
    rw [List.length_append, List.length_map] at hnames
    cases kind with
    | init => exact hnames ▸ Nat.lt_add_right _ (by decide)
    | createApi => exact hnames ▸ Nat.lt_add_right _ (by decide)
    | createWebhook => exact hnames ▸ Nat.lt_add_right _ (by decide)
  exact ⟨_, List.getElem?_eq_getElem hlength⟩

/-- The names that lead to a subcommand with a place of its own choose it. -/
theorem choose_provided {kind : SubcommandKind} {levels : List MatchedCommand} {m : MatchedCommand}
    (names : kind.path <+: levels.map MatchedCommand.name) (given : levels[kind.depth]? = some m)
    (free : ∀ e ∈ t.extras, kind.path.head? ≠ some e.command.name) :
    t.choose levels = t.chooseProvided kind.label kind m := by
  obtain ⟨rest, hrest⟩ := names
  cases kind with
  | init =>
    obtain ⟨top, below, rfl, htop, -⟩ := List.map_eq_cons_iff.1 hrest.symm
    obtain rfl : top = m := Option.some.inj given
    have hfind := find?_eq_none_of_free fun e he hname => free e he (congrArg some hname.symm)
    simp only [choose, htop, hfind]
    rfl
  | createApi =>
    obtain ⟨top, below, rfl, htop, hbelow⟩ := List.map_eq_cons_iff.1 hrest.symm
    obtain ⟨leaf, below, rfl, hleaf, -⟩ := List.map_eq_cons_iff.1 hbelow
    obtain rfl : leaf = m := Option.some.inj given
    have hfind := find?_eq_none_of_free fun e he hname => free e he (congrArg some hname.symm)
    simp [choose, htop, hfind, hleaf, SubcommandKind.label]
  | createWebhook =>
    obtain ⟨top, below, rfl, htop, hbelow⟩ := List.map_eq_cons_iff.1 hrest.symm
    obtain ⟨leaf, below, rfl, hleaf, -⟩ := List.map_eq_cons_iff.1 hbelow
    obtain rfl : leaf = m := Option.some.inj given
    have hfind := find?_eq_none_of_free fun e he hname => free e he (congrArg some hname.symm)
    simp [choose, htop, hfind, hleaf, SubcommandKind.label]

/-- The names that lead to a named subcommand choose it. -/
theorem choose_named {word : String} {levels : List MatchedCommand} {m : MatchedCommand}
    (names : ["alpha", word] <+: levels.map MatchedCommand.name) (given : levels[1]? = some m)
    (free : ∀ e ∈ t.extras, e.command.name ≠ "alpha") :
    t.choose levels = t.chooseNamed word m := by
  obtain ⟨rest, hrest⟩ := names
  obtain ⟨top, below, rfl, htop, hbelow⟩ := List.map_eq_cons_iff.1 hrest.symm
  obtain ⟨leaf, below, rfl, hleaf, -⟩ := List.map_eq_cons_iff.1 hbelow
  obtain rfl : leaf = m := Option.some.inj given
  simp [choose, htop, find?_eq_none_of_free free, hleaf]

/-- **A plugin that is asked again has the subcommand.** The tree holds the first plugin that has one of
the kind, and it is this one that is chosen. -/
theorem chooseProvided_of_isFirst (built : build name r plugins extras = .ok t) {kind : SubcommandKind}
    {p : Plugin} {s : Subcommand} (first : p.IsFirst (fun q => q.subcommand kind) plugins s)
    (label : String) (m : MatchedCommand) : t.chooseProvided label kind m = .provided label p s m := by
  have hprovider : t.provider kind = some p := by
    rw [(of_build built).1]
    exact findProvider_eq_some_iff.2 ⟨s, first⟩
  have hagain : p.subcommand kind = some s := first.mem.2
  unfold chooseProvided
  rw [hprovider]
  dsimp only
  rw [hagain]

/-- **A plugin that is asked again has the named subcommand.** The tree holds the first plugin that has one
of the name, and it is the first that this plugin has that is chosen. -/
theorem chooseNamed_of_isFirst (built : build name r plugins extras = .ok t) {word : String}
    {p : Plugin} {s : Subcommand} (first : p.IsFirst (fun q => q.alpha.lookup word) plugins s)
    (m : MatchedCommand) : t.chooseNamed word m = .named ("alpha " ++ word) p s m := by
  have hplugin : t.alpha.lookup word = some p := by
    rw [(of_build built).2.1]
    exact lookup_alpha_eq_some_iff.2 ⟨s, first⟩
  have hagain : p.alpha.lookup word = some s := first.mem.2
  unfold chooseNamed
  rw [hplugin]
  dsimp only
  rw [hagain]

/-- A subcommand that no plugin has is refused. -/
theorem chooseProvided_of_missing (built : build name r plugins extras = .ok t) {kind : SubcommandKind}
    (missing : ∀ q ∈ plugins, q.subcommand kind = none) (label : String) (m : MatchedCommand) :
    t.chooseProvided label kind m = .refused (t.unavailable label) := by
  unfold chooseProvided
  rw [(of_build built).1, findProvider_eq_none_iff.2 missing]

/-- What a user is told who asks for a subcommand that no plugin provides. -/
theorem unavailable_of_build (built : build name r plugins extras = .ok t) (label : String) :
    t.unavailable label =
      if plugins = [] then needsPlugin label else "no resolved plugin provides '" ++ label ++ "'" := by
  unfold unavailable
  rw [(root_of_build built).2]
  by_cases hnil : plugins = []
  · simp [hnil, needsPlugin]
  · simp [hnil]

section

variable {path : List Command} {levels : List MatchedCommand}
  (names : levels.map MatchedCommand.name = path.map Command.name)

include names

/-- Where a path has the names of the levels, each level has the name of its command. -/
theorem name_eq_of_names {n : Nat} {leaf : Command} {last : MatchedCommand}
    (hleaf : path[n]? = some leaf) (hlast : levels[n]? = some last) : last.name = leaf.name := by
  have hnth := congrArg (·[n]?) names
  rw [List.getElem?_map, List.getElem?_map, hlast, hleaf] at hnth
  exact Option.some.inj hnth

/-- **What is chosen where a subcommand has a place of its own:** the subcommand of the plugin that fills the
place, or nothing. -/
theorem dispatches_of_fills (built : build name r plugins extras = .ok t) {kind : SubcommandKind}
    {leaf : Command} (leads : kind.path <+: path.map Command.name)
    (hleaf : path[kind.depth]? = some leaf) (fills : Fills plugins kind leaf)
    (ends : leaf.subcommands = [] → path.map Command.name = kind.path)
    (free : ∀ e ∈ extras, kind.path.head? ≠ some e.command.name) :
    Dispatches plugins extras path levels (t.choose levels) := by
  obtain ⟨-, -, hextras⟩ := of_build built
  have hnames : kind.path <+: levels.map MatchedCommand.name := names ▸ leads
  obtain ⟨last, hlast⟩ := exists_of_prefix hnames
  rw [choose_provided hnames hlast (hextras ▸ free)]
  rcases fills with ⟨p, s, hfirst, hshapes⟩ | ⟨hmissing, hwhy, hnone⟩
  · rw [chooseProvided_of_isFirst built hfirst]
    rw [← name_eq_of_names names hleaf hlast] at hshapes
    exact .provided hnames free hfirst hlast hleaf hshapes
  · rw [chooseProvided_of_missing built hmissing, unavailable_of_build built]
    have hnames' := names.trans (ends hnone)
    by_cases hnil : plugins = []
    · rw [if_pos hnil]
      exact .placeholder hnames' free hnil
    · obtain rfl : kind = .init := hwhy.resolve_left hnil
      rw [if_neg hnil]
      refine .withoutInit hnames' ?_ hnil hmissing
      intro e he hname
      exact free e he (congrArg some hname.symm)

/-- **What is chosen where a subcommand has a name:** the subcommand of the first plugin that has the name. -/
theorem dispatches_of_named (built : build name r plugins extras = .ok t) {word : String}
    {leaf : Command} {p : Plugin} {s : Subcommand} (leads : ["alpha", word] <+: path.map Command.name)
    (hleaf : path[1]? = some leaf) (first : p.IsFirst (fun q => q.alpha.lookup word) plugins s)
    (hword : leaf.name = word) (shapes : s.Shapes word leaf)
    (free : ∀ e ∈ extras, e.command.name ≠ "alpha") :
    Dispatches plugins extras path levels (t.choose levels) := by
  obtain ⟨-, -, hextras⟩ := of_build built
  have hnames : ["alpha", word] <+: levels.map MatchedCommand.name := names ▸ leads
  obtain ⟨last, hlast⟩ : ∃ last, levels[1]? = some last := by
    obtain ⟨_, hrest⟩ := hnames
    obtain ⟨_, _, hlevels, -, hbelow⟩ := List.map_eq_cons_iff.1 hrest.symm
    obtain ⟨last, _, rfl, -, -⟩ := List.map_eq_cons_iff.1 hbelow
    exact ⟨last, by rw [hlevels]; rfl⟩
  rw [choose_named hnames hlast (hextras ▸ free), chooseNamed_of_isFirst built first]
  rw [← hword, ← name_eq_of_names names hleaf hlast] at shapes
  exact .named hnames free first hlast hleaf shapes

end

/-- **What is chosen under a name of the host's:** the command of the host, which has read the arguments. -/
theorem dispatches_of_extra (built : build name r plugins extras = .ok t) {c : Command}
    {path : List Command} {m : MatchedCommand} {below : List MatchedCommand}
    (leads : t.root.Leads (c :: path)) (hhead : m.name = c.name) {e : ExtraCommand}
    (hfind : extras.find? (fun e => e.command.name = c.name) = some e) :
    Dispatches plugins extras (c :: path) (m :: below) (t.choose (m :: below)) := by
  obtain ⟨-, -, hextras⟩ := of_build built
  have hreader : c = e.command := by
    cases leads with
    | down found further =>
      rw [subcommand?_root built, hfind] at found
      exact (Option.some.inj found).symm
  have hname : e.command.name = c.name := by simpa using List.find?_some hfind
  rw [← hhead, ← hextras] at hfind
  rw [choose_extra below hfind]
  exact .extra (hextras ▸ List.mem_of_find?_eq_some hfind) (hhead.trans hname.symm) rfl
    (congrArg some hreader)

/-- **What is chosen is what is to be chosen,** where a path of the tree has the names of the levels. -/
theorem dispatches_choose (built : build name r plugins extras = .ok t)
    (keeps : ∀ p ∈ plugins, p.KeepsNames) {c : Command} {path : List Command} {m : MatchedCommand}
    {below : List MatchedCommand} (leads : t.root.Leads (c :: path))
    (names : (m :: below).map MatchedCommand.name = (c :: path).map Command.name) :
    Dispatches plugins extras (c :: path) (m :: below) (t.choose (m :: below)) := by
  rcases hfind : extras.find? (fun e => e.command.name = c.name) with _ | e
  · have hfree : ∀ e ∈ extras, e.command.name ≠ c.name := by
      intro e he hname
      exact List.find?_eq_none.1 hfind e he (decide_eq_true hname)
    rcases of_leads built keeps leads hfind with
      ⟨kind, leaf, hpath, hleaf, hfills, hends⟩ |
        ⟨word, leaf, p, s, hpath, hleaf, hfirst, hword, hshapes⟩
    · refine dispatches_of_fills names built hpath hleaf hfills hends ?_
      intro e he hname
      obtain ⟨rest, hrest⟩ := hpath
      have hheads := congrArg List.head? hrest
      rw [List.head?_append, hname] at hheads
      exact hfree e he (Option.some.inj hheads)
    · refine dispatches_of_named names built hpath hleaf hfirst hword hshapes ?_
      obtain ⟨rest, hrest⟩ := hpath
      rw [(List.cons.inj hrest).1]
      exact hfree
  · exact dispatches_of_extra built leads (List.cons.inj names).1 hfind

/-- **What is to be chosen is what is chosen,** so there is one such choice at most. -/
theorem Dispatches.choose_eq (built : build name r plugins extras = .ok t) {path : List Command}
    {levels : List MatchedCommand} {choice : Choice}
    (h : Dispatches plugins extras path levels choice) : t.choose levels = choice := by
  obtain ⟨-, -, hextras⟩ := of_build built
  obtain ⟨-, distinct, -⟩ := build_eq_ok_iff.1 built
  cases h with
  | @extra e m own named given reader =>
    obtain ⟨below, rfl⟩ := List.head?_eq_some_iff.1 given
    apply choose_extra
    rw [hextras]
    rcases hfind : extras.find? (fun e => e.command.name = m.name) with _ | e'
    · exact absurd (decide_eq_true named.symm) (List.find?_eq_none.1 hfind e own)
    · have hname : e'.command.name = m.name := by simpa using List.find?_some hfind
      have hsame : e' = e :=
        List.inj_on_of_nodup_map distinct (List.mem_of_find?_eq_some hfind) own (hname.trans named)
      rw [hfind, hsame]
  | provided names free first given reader shaped =>
    rw [choose_provided names given (hextras ▸ free), chooseProvided_of_isFirst built first]
  | named names free first given reader shaped =>
    rw [choose_named names given (hextras ▸ free), chooseNamed_of_isFirst built first]
  | withoutInit names free selected missing =>
    obtain ⟨m, rfl, -⟩ := List.map_eq_singleton_iff.1 names
    have hfree : ∀ e ∈ t.extras, SubcommandKind.init.path.head? ≠ some e.command.name := by
      rw [hextras]
      intro e he hname
      exact free e he (Option.some.inj hname).symm
    have hnames : SubcommandKind.init.path <+: [m].map MatchedCommand.name := names ▸ List.prefix_rfl
    rw [choose_provided hnames rfl hfree, chooseProvided_of_missing built missing,
      unavailable_of_build built, if_neg selected]
    rfl
  | @placeholder kind names free nobody =>
    have hnames : kind.path <+: levels.map MatchedCommand.name := names ▸ List.prefix_rfl
    obtain ⟨m, hlast⟩ := exists_of_prefix hnames
    rw [choose_provided hnames hlast (hextras ▸ free)]
    subst nobody
    rw [chooseProvided_of_missing built (List.forall_mem_nil _), unavailable_of_build built, if_pos rfl]

/-- **What is refused:** `init` where no plugin provides it, and any subcommand where there are no
plugins. -/
theorem Dispatches.of_refused {path : List Command} {levels : List MatchedCommand} {reason : String}
    (h : Dispatches plugins extras path levels (.refused reason)) :
    (plugins ≠ [] ∧ (∀ q ∈ plugins, q.subcommand .init = none) ∧
        levels.map MatchedCommand.name = ["init"] ∧
        reason = "no resolved plugin provides 'init'") ∨
      (plugins = [] ∧ ∃ kind, levels.map MatchedCommand.name = SubcommandKind.path kind ∧
        reason = needsPlugin kind.label) := by
  cases h with
  | withoutInit names free selected missing => exact .inl ⟨selected, missing, names, rfl⟩
  | placeholder names free nobody => exact .inr ⟨nobody, _, names, rfl⟩

/-- **Without plugins** no handler of one is chosen. -/
theorem Dispatches.of_no_plugins {path : List Command} {levels : List MatchedCommand}
    {choice : Choice} (h : Dispatches [] extras path levels choice) :
    (∃ e ∈ extras, ∃ m, choice = .extra e m) ∨
      ∃ kind, choice = .refused (needsPlugin (SubcommandKind.label kind)) := by
  cases h with
  | extra own named given reader => exact .inl ⟨_, own, _, rfl⟩
  | provided names free first given reader shaped =>
    obtain ⟨before, after, hnil, -⟩ := first
    simp at hnil
  | named names free first given reader shaped =>
    obtain ⟨before, after, hnil, -⟩ := first
    simp at hnil
  | withoutInit names free selected missing => exact absurd rfl selected
  | placeholder names free nobody => exact .inr ⟨_, rfl⟩

/-! ## What is run -/

/-- Whether a run that makes a choice ends in a given way: the handler that is chosen has run, and knows
the key of the plugin that it belongs to. -/
def Choice.Ends (d : Directory) (result : RunResult) : Choice → Prop
  | .help => result = .help
  | .extra e m => result = .finished (e.run m d)
  | .provided _ p s m | .named _ p s m => ∃ i outcome log, i.pluginKey = p.key ∧
      outcome = s.run i m d ∧ result = .finished { outcome with log }
  | .refused reason => result = .finished (.fail d (.refused reason))

/-- What a session has chosen is what its run ends with. -/
theorem ends_of_choice? {s : Session} {choice : Choice} (h : s.choice? = some choice) (d : Directory) :
    choice.Ends d (s.run d) := by
  rw [Session.run_of_choice? h]
  cases choice with
  | help => rfl
  | extra e m => rfl
  | provided label p c m => exact ⟨s.invocation p, _, _, rfl, rfl, rfl⟩
  | named label p c m => exact ⟨s.invocation p, _, _, rfl, rfl, rfl⟩
  | refused reason => rfl

/-- **A plugin that the tree holds has the subcommand when it is asked again,** and so it is found a second
time. -/
theorem asked_again (built : build name r plugins extras = .ok t) :
    (∀ kind p, t.provider kind = some p → ∃ c, p.subcommand kind = some c ∧
        p.IsFirst (fun q => q.subcommand kind) plugins c) ∧
      ∀ word p, t.alpha.lookup word = some p → ∃ c, p.alpha.lookup word = some c ∧
        p.IsFirst (fun q => q.alpha.lookup word) plugins c := by
  obtain ⟨hprovider, halpha, -⟩ := of_build built
  constructor
  · intro kind p h
    rw [hprovider] at h
    obtain ⟨c, hfirst⟩ := findProvider_eq_some_iff.1 h
    exact ⟨c, hfirst.mem.2, hfirst⟩
  · intro word p h
    rw [halpha] at h
    obtain ⟨c, hfirst⟩ := lookup_alpha_eq_some_iff.1 h
    exact ⟨c, hfirst.mem.2, hfirst⟩

/-- **What is matched is what is run.** Let a tree be built for some plugins and commands of the host, where
the plugins keep the names of the commands that they configure, and let its root command accept arguments
that name a subcommand.

1. The arguments were read by commands of the tree, from the root command down along a path.
2. Exactly one choice is the right one for that path and these levels (`Dispatches`), and it is made: a
   command of the host if one has the name; else the subcommand of the first plugin that provides it, or
   that has it under the name, by whose own command the arguments were read.
3. In every run of the tree the handler that is chosen runs, and knows the key of its plugin.
4. A plugin that the tree holds has the subcommand when it is asked for it again, and this is the subcommand
   of the first plugin that has one.
5. Nothing is refused but `init` where there are plugins and none provides it, and a subcommand where
   there are no plugins. So no command is unknown, and no subcommand is missing that has a command.
6. Without plugins nothing runs but a command of the host. -/
theorem dispatch {args : List RawText} {top m : MatchedCommand} {below : List MatchedCommand}
    (built : build name r plugins extras = .ok t) (keeps : ∀ p ∈ plugins, p.KeepsNames)
    (accepted : t.root.matches args = .ok (top :: m :: below)) :
    ∃ read path,
      (Arguments.matchFrom [] t.root {} args = .ok read ∧
        top :: m :: below =
          ((Arguments.globals t.root read.tail).map Argument.id).foldl Arguments.share read ∧
        Arguments.Descends [] t.root args read path) ∧
      (∀ choice, Dispatches plugins extras path (m :: below) choice ↔
        choice = t.choose (m :: below)) ∧
      (∀ s : Session, s.tree = t → s.arguments = args → ∀ d,
        (t.choose (m :: below)).Ends d (s.run d)) ∧
      ((∀ kind p, t.provider kind = some p → ∃ c, p.subcommand kind = some c ∧
          p.IsFirst (fun q => q.subcommand kind) plugins c) ∧
        ∀ word p, t.alpha.lookup word = some p → ∃ c, p.alpha.lookup word = some c ∧
          p.IsFirst (fun q => q.alpha.lookup word) plugins c) ∧
      (∀ reason, t.choose (m :: below) = .refused reason →
        (plugins ≠ [] ∧ (∀ q ∈ plugins, q.subcommand .init = none) ∧
            (m :: below).map MatchedCommand.name = ["init"] ∧
            reason = "no resolved plugin provides 'init'") ∨
          (plugins = [] ∧ ∃ kind, (m :: below).map MatchedCommand.name = SubcommandKind.path kind ∧
            reason = needsPlugin kind.label)) ∧
      (plugins = [] → (∃ e ∈ extras, ∃ m', t.choose (m :: below) = .extra e m') ∨
        ∃ kind, t.choose (m :: below) = .refused (needsPlugin (SubcommandKind.label kind))) := by
  obtain ⟨read, path, hread, hshared, hdescends, hnames⟩ := Command.exists_descent_of_matches accepted
  have hbelow : (m :: below).map MatchedCommand.name = path.map Command.name :=
    (List.cons.inj hnames).2
  obtain ⟨c, path, rfl⟩ : ∃ c path', path = c :: path' := by
    apply List.exists_cons_of_ne_nil
    rintro rfl
    cases hbelow
  have hmade := dispatches_choose built keeps hdescends.leads hbelow
  refine ⟨read, c :: path, ⟨hread, hshared, hdescends⟩, ?_, ?_, asked_again built, ?_, ?_⟩
  · intro choice
    constructor
    · intro hright
      exact (hright.choose_eq built).symm
    · rintro rfl
      exact hmade
  · rintro s rfl rfl d
    apply ends_of_choice?
    unfold Session.choice?
    rw [accepted]
    rfl
  · intro reason hrefused
    rw [hrefused] at hmade
    exact hmade.of_refused
  · rintro rfl
    exact hmade.of_no_plugins

end

/-- A subcommand that prints a text. -/
def printing (text : String) : Subcommand where
  run _ _ d := { directory := d, output := text }

/-- A plugin that has one name twice. -/
def prober : Plugin where
  name := "probe.scaffold.dev"
  version := ⟨1, .stable⟩
  projectVersions := [⟨"2"⟩]
  alpha := [("probe", printing "first"), ("probe", printing "second")]

/-- Two plugins of which the second has a name that the first has too, and alone provides the subcommands
that have a place of their own. -/
def probers : List Plugin :=
  [prober, { prober with
    subcommand := fun _ => some (printing "provided"), alpha := [("probe", printing "third")] }]

/-- All that these plugins have prints a text. -/
theorem exists_eq_printing {p : Plugin} (hp : p ∈ probers) {s : Subcommand} (h : p.Offers s) :
    ∃ text, s = printing text := by
  have hkind : ∀ p ∈ probers, ∀ kind s, p.subcommand kind = some s → s = printing "provided" := by
    simp [probers, prober, eq_comm]
  have hnamed : ∀ p ∈ probers, ∀ a ∈ p.alpha, ∃ text, a.2 = printing text := by
    simp +contextual [probers, prober, or_imp]
  rcases h with ⟨kind, hs⟩ | ⟨word, hs⟩
  · exact ⟨_, hkind p hp kind s hs⟩
  · exact hnamed p hp _ hs

/-- The name that is there three times leads to the first. -/
theorem dispatch_probe :
    ∃ t, build "scaffold" {} probers [] = .ok t ∧
      t.root.matches (["alpha", "probe"].map RawText.ofString) =
        .ok [⟨"scaffold", []⟩, ⟨"alpha", []⟩, ⟨"probe", []⟩] ∧
      ∃ path, Dispatches probers [] path [⟨"alpha", []⟩, ⟨"probe", []⟩]
        (.named "alpha probe" prober (printing "first") ⟨"probe", []⟩) := by
  have keeps : ∀ p ∈ probers, p.KeepsNames := by
    intro p hp s hs
    obtain ⟨text, rfl⟩ := exists_eq_printing hp hs
    exact fun c => rfl
  obtain ⟨t, built⟩ := exists_build "scaffold" {} keeps (List.forall_mem_nil _) List.nodup_nil
  have accepted : t.root.matches (["alpha", "probe"].map RawText.ofString) =
      .ok [⟨"scaffold", []⟩, ⟨"alpha", []⟩, ⟨"probe", []⟩] := by
    rw [(root_of_build built).1]
    decide +kernel
  have chosen : t.choose [⟨"alpha", []⟩, ⟨"probe", []⟩] =
      .named "alpha probe" prober (printing "first") ⟨"probe", []⟩ := by
    obtain ⟨-, -, hextras⟩ := of_build built
    have asked : t.choose [⟨"alpha", []⟩, ⟨"probe", []⟩] = t.chooseNamed "probe" ⟨"probe", []⟩ :=
      choose_named List.prefix_rfl rfl (hextras ▸ List.forall_mem_nil _)
    rw [asked]
    exact chooseNamed_of_isFirst built ⟨[], _, rfl, List.forall_mem_nil _, rfl⟩ _
  obtain ⟨read, path, -, right, -⟩ := dispatch built keeps accepted
  exact ⟨t, built, accepted, path, (right _).2 chosen.symm⟩

end CommandTree

end Scaffolder
