import Scaffolder.Program
import Scaffolder.Proofs.CommandTree
import Scaffolder.Proofs.Selection

/-!
# What a run does

How a run starts, and what it can do to the directory.

* **The start** (`bootstrap_eq_ok_iff`): the registry, the request, the selection and the command
  tree are made in turn, and each can fail. The registry is that after all batches of the host, in
  which all were accepted (`afterAll_of_registry`).
* **The directory** (`directory_of_bootstrap`): a run either leaves it alone, or what it does is done
  by one handler, which a command of the host or the plugin has that the run has selected.
-/

namespace Scaffolder

open Text (RawText)

/-! ## The start -/

namespace Host

/-- The registry of a host is that after its batches, all of which are accepted. -/
theorem afterAll_of_registry {h : Host} {r : Registry} (registered : h.registry = .ok r) :
    r = Registry.afterAll {} h.batches ∧ Registry.PlainAccepted {} h.batches := by
  unfold registry at registered
  split at registered
  · cases registered
  · split at registered
    · next hall =>
      obtain rfl := Except.ok.inj registered
      exact Registry.afterAll_of_registerAll hall
    · cases registered

/-- Outside projects a run asks for the version that is asked for, or for that of the host. -/
theorem request_of_none {h : Host} {d : Directory} (loaded : ConfigFile.load d h.projectDir = .ok none)
    (scan : Prescan) :
    h.request d scan = .ok (.unconfigured (scan.version h.defaultVersion) scan.key) := by
  unfold request
  rw [loaded]

/-- In a project a run asks for the version of the project. -/
theorem request_of_some {h : Host} {d : Directory} {c : Config}
    (loaded : ConfigFile.load d h.projectDir = .ok (some c)) (supported : c.isLegacy = false)
    (scan : Prescan) : h.request d scan = .ok (.configured c scan.key) := by
  unfold request
  rw [loaded]
  simp only [supported, Bool.false_eq_true, ↓reduceIte]

/-- The selection of a run that starts: there is none where general help is asked for. -/
theorem selection_eq_ok_iff {r : Registry} {q : Request} {scan : Prescan} {s : Option Selection} :
    selection r q scan = .ok s ↔
      (scan.genericHelp = true ∧ s = none) ∨
        (scan.genericHelp = false ∧ q.gate r = .ok () ∧ ∃ t, q.select r = .ok t ∧ s = some t) := by
  unfold selection
  cases scan.genericHelp with
  | true => simp [eq_comm]
  | false =>
    cases hgate : q.gate r with
    | error e => simp
    | ok u =>
      cases hselect : q.select r with
      | error e => simp
      | ok t => simp [eq_comm]

/-- **A run gets the selection of its request,** unless general help is asked for: the gate lets
through what can be selected. -/
theorem selection_of_select {h : Host} {r : Registry} {q : Request} {t : Selection}
    (registered : h.registry = .ok r) (selected : q.select r = .ok t) (scan : Prescan) :
    selection r q scan = .ok (if scan.genericHelp then none else some t) := by
  obtain ⟨rfl, _⟩ := afterAll_of_registry registered
  have gate := Request.gate_of_select_of_sound (Registry.sound_afterAll h.batches) selected
  rw [selection_eq_ok_iff]
  by_cases generic : scan.genericHelp = true
  · exact .inl ⟨generic, if_pos generic⟩
  · exact .inr ⟨Bool.eq_false_iff.2 generic, gate, t, selected, if_neg generic⟩

/-- The tree of a run is built from the plugins that it has selected. -/
theorem tree_eq_ok_iff {h : Host} {r : Registry} {s : Option Selection} {t : CommandTree} :
    h.tree r s = .ok t ↔
      CommandTree.build h.commandName r (selectedPlugins s) h.extras = .ok t := by
  unfold tree
  cases CommandTree.build h.commandName r (selectedPlugins s) h.extras with
  | error name => simp
  | ok t => simp

/-- **How a run starts.** -/
theorem bootstrap_eq_ok_iff {h : Host} {d : Directory} {argv : List RawText} {s : Session} :
    h.bootstrap d argv = .ok s ↔
      ∃ r, h.registry = .ok r ∧ h.request d (Prescan.scan argv) = .ok s.request ∧
        selection r s.request (Prescan.scan argv) = .ok s.selection ∧
        h.tree r s.selection = .ok s.tree ∧ s.commandName = h.commandName ∧
        s.projectDir = h.projectDir ∧ s.arguments = argv.tail := by
  constructor
  · intro hb
    obtain ⟨r, hregistry, hb⟩ := bind_eq_ok.1 hb
    obtain ⟨q, hrequest, hb⟩ := bind_eq_ok.1 hb
    obtain ⟨sel, hselection, hb⟩ := bind_eq_ok.1 hb
    obtain ⟨t, htree, hb⟩ := bind_eq_ok.1 hb
    obtain rfl := Except.ok.inj hb
    exact ⟨r, hregistry, hrequest, hselection, htree, rfl, rfl, rfl⟩
  · obtain ⟨name, dir, args, q, sel, t⟩ := s
    rintro ⟨r, hregistry, hrequest, hselection, htree, rfl, rfl, rfl⟩
    refine bind_eq_ok.2 ⟨r, hregistry, bind_eq_ok.2 ⟨q, hrequest, ?_⟩⟩
    exact bind_eq_ok.2 ⟨sel, hselection, bind_eq_ok.2 ⟨t, htree, rfl⟩⟩

/-- A plugin that a run has selected is the one that its request means, and the only one. -/
theorem of_mem_selection {r : Registry} {q : Request} {scan : Prescan} {s : Option Selection}
    (hselection : selection r q scan = .ok s) {p : Plugin} (hp : p ∈ selectedPlugins s) :
    q.select r = .ok (.single p) ∧ s = some (.single p) := by
  rcases selection_eq_ok_iff.1 hselection with ⟨_, rfl⟩ | ⟨_, _, t, hselect, rfl⟩
  · cases hp
  · obtain ⟨p', rfl, _⟩ := Request.exists_of_select hselect
    obtain rfl := List.mem_singleton.1 hp
    exact ⟨hselect, rfl⟩

/-- A plugin that a request means was in one of the host's batches, and supports the version of the
request. -/
theorem offered_of_registry {h : Host} {r : Registry} {q : Request} {p : Plugin}
    (registered : h.registry = .ok r) (selected : q.select r = .ok (.single p)) :
    (∃ b ∈ h.batches, p ∈ b.plugins) ∧ q.version ∈ p.projectVersions := by
  obtain ⟨rfl, _⟩ := afterAll_of_registry registered
  obtain ⟨hbatch, _, hversion⟩ :=
    Request.offered_of_select (Registry.sound_afterAll h.batches) selected
  exact ⟨hbatch, hversion⟩

/-- Whether the plugins of a host keep the names of the commands that they configure. -/
def KeepsNames (h : Host) : Prop := ∀ b ∈ h.batches, ∀ p ∈ b.plugins, p.KeepsNames

/-- A plugin that a run selects was in one of the host's batches. -/
theorem mem_batches_of_selection {h : Host} {r : Registry} {q : Request} {scan : Prescan}
    {s : Option Selection} (registered : h.registry = .ok r)
    (hselection : selection r q scan = .ok s) {p : Plugin} (hp : p ∈ selectedPlugins s) :
    ∃ b ∈ h.batches, p ∈ b.plugins :=
  (offered_of_registry registered (of_mem_selection hselection hp).1).1

/-- The plugins that a run selects keep names, if all of the host's do. -/
theorem KeepsNames.of_selection {h : Host} (keeps : h.KeepsNames) {r : Registry} {q : Request}
    {scan : Prescan} {s : Option Selection} (registered : h.registry = .ok r)
    (hselection : selection r q scan = .ok s) : ∀ p ∈ selectedPlugins s, p.KeepsNames := by
  intro p hp
  obtain ⟨b, hb, hpb⟩ := mem_batches_of_selection registered hselection hp
  exact keeps b hb p hpb

end Host

/-! ## The directory -/

namespace Session

/-- What a started run asks for, if its arguments are accepted. -/
def choice? (s : Session) : Option CommandTree.Choice :=
  match s.tree.root.matches s.arguments with
  | .ok levels => some (s.tree.choose levels.tail)
  | .error _ => none

/-- What a run asks for is one of its tree's choices. -/
theorem choice?_isOf {s : Session} {c : CommandTree.Choice} (h : s.choice? = some c) :
    c.IsOf s.tree := by
  unfold choice? at h
  split at h
  · obtain rfl := Option.some.inj h
    exact s.tree.choose_isOf _
  · cases h

/-- A started run performs what it asks for. -/
theorem run_of_choice? {s : Session} {c : CommandTree.Choice} (h : s.choice? = some c)
    (d : Directory) : s.run d = CommandTree.perform s.invocation d c := by
  unfold choice? at h
  unfold run CommandTree.run
  cases hmatch : s.tree.root.matches s.arguments with
  | error e =>
    rw [hmatch] at h
    cases h
  | ok levels =>
    rw [hmatch] at h
    rw [← Option.some.inj h]

/-- A run that asks for nothing says why its arguments are not accepted. -/
theorem run_of_no_choice {s : Session} (h : s.choice? = none) (d : Directory) :
    ∃ e, s.run d = .usage e := by
  unfold choice? at h
  unfold run CommandTree.run
  cases hmatch : s.tree.root.matches s.arguments with
  | error e => exact ⟨e, rfl⟩
  | ok levels =>
    rw [hmatch] at h
    cases h

end Session

namespace Program

/-- A run that starts leaves what its session does. -/
theorem runHost_of_bootstrap {h : Host} {d : Directory} {argv : List RawText} {s : Session}
    (hb : h.bootstrap d argv = .ok s) :
    runHost h d argv = conclude d s.notices (h.bootstrapLog d argv) (s.run d) := by
  unfold runHost
  rw [hb]

/-- A run that does not start leaves the directory alone. -/
theorem directory_of_bootstrap_error {h : Host} {d : Directory} {argv : List RawText}
    {e : BootstrapError} (hb : h.bootstrap d argv = .error e) : (runHost h d argv).directory = d := by
  unfold runHost
  rw [hb]

/-- **What a started run does to the directory.** Nothing, or what one handler does: that of a command
of the host, or one that the plugin has which the run has selected. -/
theorem directory_of_bootstrap {h : Host} {d : Directory} {argv : List RawText} {s : Session}
    (hb : h.bootstrap d argv = .ok s) :
    (runHost h d argv).directory = d ∨
      (∃ e ∈ h.extras, ∃ m, (runHost h d argv).directory = (e.run m d).directory) ∨
      ∃ r p c m, h.registry = .ok r ∧ s.request.select r = .ok (.single p) ∧ p.Offers c ∧
        (runHost h d argv).directory = (c.run (s.invocation p) m d).directory := by
  rw [runHost_of_bootstrap hb]
  obtain ⟨r, hregistry, _, hselection, htree, _⟩ := Host.bootstrap_eq_ok_iff.1 hb
  obtain ⟨hprovider, halpha, hextras⟩ := CommandTree.of_build (Host.tree_eq_ok_iff.1 htree)
  cases hc : s.choice? with
  | none =>
    obtain ⟨e, hrun⟩ := Session.run_of_no_choice hc d
    rw [hrun]
    exact .inl rfl
  | some c =>
    have hof := Session.choice?_isOf hc
    rw [Session.run_of_choice? hc]
    cases c with
    | help => exact .inl rfl
    | refused reason => exact .inl rfl
    | extra e m => exact .inr (.inl ⟨e, hextras ▸ hof, m, rfl⟩)
    | provided label p c m =>
      obtain ⟨kind, _, hp, hoffer⟩ := hof
      rw [hprovider] at hp
      obtain ⟨hmem, _⟩ := CommandTree.of_findProvider hp
      exact .inr (.inr ⟨r, p, c, m, hregistry, (Host.of_mem_selection hselection hmem).1,
        .inl ⟨kind, hoffer⟩, rfl⟩)
    | named label p c m =>
      obtain ⟨name, _, hp, hoffer⟩ := hof
      rw [halpha] at hp
      obtain ⟨_, hfirst⟩ := CommandTree.lookup_alpha_eq_some_iff.1 hp
      exact .inr (.inr ⟨r, p, c, m, hregistry, (Host.of_mem_selection hselection hfirst.mem.1).1,
        .inr ⟨name, mem_of_lookup hoffer⟩, rfl⟩)

/-- A run does nothing to the directory but what one handler does that a command of the host or a
plugin in one of its batches has. -/
theorem directory_runHost (h : Host) (d : Directory) (argv : List RawText) :
    (runHost h d argv).directory = d ∨
      (∃ e ∈ h.extras, ∃ m, (runHost h d argv).directory = (e.run m d).directory) ∨
      ∃ b ∈ h.batches, ∃ p ∈ b.plugins, ∃ c i m, p.Offers c ∧ i.projectDir = h.projectDir ∧
        (runHost h d argv).directory = (c.run i m d).directory := by
  cases hb : h.bootstrap d argv with
  | error e => exact .inl (directory_of_bootstrap_error hb)
  | ok s =>
    obtain ⟨_, _, _, _, _, _, hdir, _⟩ := Host.bootstrap_eq_ok_iff.1 hb
    rcases directory_of_bootstrap hb with
      hsame | hextra | ⟨r, p, c, m, hregistry, hselect, hoffers, hrun⟩
    · exact .inl hsame
    · exact .inr (.inl hextra)
    · obtain ⟨⟨b, hbatch, hp⟩, _⟩ := Host.offered_of_registry hregistry hselect
      exact .inr (.inr ⟨b, hbatch, p, hp, c, s.invocation p, m, hoffers, hdir, hrun⟩)

end Program

namespace Host

/-- Whether a run starts and asks for a subcommand that a plugin provides, where something holds of the
session, the plugin and the arguments. -/
def asksFor (label : String) (holds : Session → Plugin → MatchedCommand → Bool) :
    Except BootstrapError Session → Bool
  | .error _ => false
  | .ok s =>
      match s.choice? with
      | some (.provided label' p _ m) => label' == label && holds s p m
      | _ => false

/-- What a run starts with that asks for a subcommand. -/
theorem exists_of_asksFor (label : String) (holds : Session → Plugin → MatchedCommand → Bool)
    {x : Except BootstrapError Session} (h : asksFor label holds x = true) :
    ∃ s p c m, x = .ok s ∧ s.choice? = some (.provided label p c m) ∧ holds s p m = true := by
  unfold asksFor at h
  split at h
  · cases h
  · next s =>
    split at h
    · next label' p c m hchoice =>
      rw [Bool.and_eq_true, beq_iff_eq] at h
      obtain ⟨rfl, hholds⟩ := h
      exact ⟨s, p, c, m, rfl, hchoice, hholds⟩
    · cases h

/-- The directory after any number of runs. -/
def after (h : Host) (d : Directory) (runs : List (List RawText)) : Directory :=
  runs.foldl (fun d argv => (Program.runHost h d argv).directory) d

/-- After no runs the directory is as it was. -/
@[simp] theorem after_nil (h : Host) (d : Directory) : h.after d [] = d := rfl

/-- The first run is made, and then the others. -/
@[simp] theorem after_cons (h : Host) (d : Directory) (argv : List RawText)
    (runs : List (List RawText)) :
    h.after d (argv :: runs) = h.after (Program.runHost h d argv).directory runs := rfl

end Host

end Scaffolder
