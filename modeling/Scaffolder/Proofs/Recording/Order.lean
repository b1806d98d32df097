import Scaffolder.Proofs.Recording
import Scaffolder.Proofs.Saving

/-!
# The order of recording

It makes hardly any difference in which order create commands succeed.

* **Success** (`Creation.run_succeeds_iff`): a create command succeeds if it is not refused, the resource
  that it names is there or not as it has to be, and what it makes of the configuration is saved.
* **Sequences** (`Creation.Succeed`): commands that succeed one after another leave what their last one
  saves, as if it alone had been saved (`Creation.Succeed.spec`). Whole runs of the program are such
  sequences (`Creation.Succeed.of_runHost`).
* **What comes of a configuration** (`Creation.resources_recordAll`): new resources come behind the others,
  in the order of the commands. Then each resource has the webhooks that are asked for it anywhere
  (`Creation.asked`). No command before the one that adds a resource can have asked for its webhooks.

`creations_in_any_order` puts these together.
-/

namespace Scaffolder

namespace Webhooks

/-- Webhooks that are added to none are the webhooks. -/
theorem empty_union (w : Webhooks) : union {} w = w := by
  simp [union]

/-- Webhooks can be added in any grouping. -/
theorem union_assoc (u v w : Webhooks) : (u.union v).union w = u.union (v.union w) := by
  simp [union, Bool.or_assoc]

/-- Webhooks that are added twice are added once. -/
theorem union_again (u w : Webhooks) : (u.union w).union w = u.union w := by
  simp [union]

end Webhooks

namespace Config

/-- Where names are distinct, all resources of a name are changed with the first. -/
theorem modifyFirst_eq_map {name : ResourceName} {f : Resource → Resource} {rs : List Resource}
    (distinct : (rs.map Resource.name).Nodup) :
    modifyFirst (fun r => r.name = name) f rs = rs.map fun r => if r.name = name then f r else r := by
  induction rs with
  | nil => rfl
  | cons r rs ih =>
    rw [List.map_cons, List.nodup_cons] at distinct
    obtain ⟨hr, hrs⟩ := distinct
    unfold modifyFirst
    rw [List.map_cons]
    by_cases hname : r.name = name
    · have hothers : ∀ r' ∈ rs, (if r'.name = name then f r' else r') = r' := by
        intro r' hr'
        apply if_neg
        intro hname'
        apply hr
        rw [hname, ← hname']
        exact List.mem_map_of_mem hr'
      simp only [hname, decide_true, ↓reduceIte]
      rw [List.map_congr_left hothers, List.map_id']
    · simp only [hname, decide_false, Bool.false_eq_true, ↓reduceIte]
      rw [ih hrs]

/-- Configurations of one project with the same resources are the same. -/
theorem SameProject.eq_of_resources {c c₁ c₂ : Config} (h₁ : c.SameProject c₁)
    (h₂ : c.SameProject c₂) (h : c₁.resources = c₂.resources) : c₁ = c₂ := by
  obtain ⟨version, domain, repo, layout, resources⟩ := c₁
  obtain ⟨version', domain', repo', layout', resources'⟩ := c₂
  obtain ⟨rfl, rfl, rfl, rfl⟩ := h₁
  obtain ⟨rfl, rfl, rfl, rfl⟩ := h₂
  obtain rfl : resources = resources' := h
  rfl

/-- A change that is done again changes nothing. -/
theorem modifyFirst_again {p : Resource → Bool} {f : Resource → Resource}
    (same : ∀ r, p (f r) = p r) (again : ∀ r, f (f r) = f r) (rs : List Resource) :
    modifyFirst p f (modifyFirst p f rs) = modifyFirst p f rs := by
  induction rs with
  | nil => rfl
  | cons r rs ih =>
    by_cases h : p r = true
    · simp [modifyFirst, h, same, again]
    · simp [modifyFirst, h, ih]

end Config

namespace GoLayout

/-! ## Success -/

/-- **A change of the configuration succeeds** if the project loads, the change is not refused and its
result is saved. -/
theorem changeProject_succeeds_iff {d d' : Directory} {root done : String}
    {change : Config → Except String Config} :
    ((changeProject d root change done).failure = none ∧
        (changeProject d root change done).directory = d') ↔
      ∃ c c', ConfigFile.load d root = .ok (some c) ∧ change c = .ok c' ∧
        ConfigFile.save d root c' = .ok d' := by
  unfold changeProject Project.open Project.save
  rcases ConfigFile.load d root with e | _ | c
  · simp [Outcome.fail]
  · simp [Outcome.fail]
  · simp only
    rcases hchange : change c with reason | c'
    · simp [Outcome.fail, hchange]
    · simp only
      rcases hsave : ConfigFile.save d root c' with e | d₁
      · simp [Outcome.fail, hchange, hsave]
      · simp [hchange, hsave]

/-- A create command with its matched arguments. -/
inductive Creation where
  /-- Adds a resource. -/
  | api (m : MatchedCommand)
  /-- Adds webhooks to a resource. -/
  | webhook (m : MatchedCommand)

namespace Creation

/-- Runs the handler of a command. -/
def run : Creation → Invocation → Directory → Outcome
  | .api m, i, d => runCreateApi i m d
  | .webhook m, i, d => runCreateWebhook i m d

/-- The resource that a command names. -/
def name : Creation → ResourceName
  | .api m => resourceName m
  | .webhook m => resourceName m

/-- The webhooks that a command asks for. -/
def webhooks : Creation → Webhooks
  | .api _ => {}
  | .webhook m => GoLayout.webhooks m

/-- Whether a command adds webhooks. -/
def isWebhook : Creation → Bool
  | .api _ => false
  | .webhook _ => true

/-- What a command that succeeds makes of the configuration. -/
def record : Creation → Config → Config
  | .api m, c => c.addResource (resourceName m)
  | .webhook m, c => c.updateWebhooks (resourceName m) fun v => v.union (GoLayout.webhooks m)

/-- Whether a command is not refused for its arguments: its resource is well named, and it asks for
webhooks if that is what it is for. -/
structure Valid (s : Creation) : Prop where
  name : s.name.fault? = none
  asks : s.isWebhook = true → s.webhooks.isEmpty = false

/-- A handler that refuses does not succeed. -/
theorem fail_succeeds_iff {d d' : Directory} {failure : Failure} {P : Prop} (refused : ¬ P) :
    ((Outcome.fail d failure).failure = none ∧ (Outcome.fail d failure).directory = d') ↔ P := by
  constructor
  · rintro ⟨hnone, -⟩
    cases hnone
  · intro h
    exact absurd h refused

/-- **When a create command succeeds,** and what directory it leaves then. -/
theorem run_succeeds_iff {s : Creation} {i : Invocation} {d d' : Directory} :
    ((s.run i d).failure = none ∧ (s.run i d).directory = d') ↔
      s.Valid ∧ ∃ c, ConfigFile.load d i.projectDir = .ok (some c) ∧
        c.hasResource s.name = s.isWebhook ∧
        ConfigFile.save d i.projectDir (s.record c) = .ok d' := by
  cases s with
  | api m =>
    simp only [run, runCreateApi]
    rcases hfault : (resourceName m).fault? with _ | fault
    · simp only
      rw [changeProject_succeeds_iff]
      constructor
      · rintro ⟨c, c', hload, hchange, hsave⟩
        unfold addApi at hchange
        split_ifs at hchange with hnew
        obtain rfl := Except.ok.inj hchange
        exact ⟨⟨hfault, fun h => by cases h⟩, c, hload, Bool.eq_false_iff.2 hnew, hsave⟩
      · rintro ⟨-, c, hload, hnew, hsave⟩
        refine ⟨c, _, hload, if_neg ?_, hsave⟩
        exact Bool.eq_false_iff.1 hnew
    · apply fail_succeeds_iff
      rintro ⟨valid, -⟩
      exact Option.some_ne_none fault (hfault.symm.trans valid.name)
  | webhook m =>
    simp only [run, runCreateWebhook]
    rcases hfault : (resourceName m).fault? with _ | fault
    · simp only
      by_cases hempty : (GoLayout.webhooks m).isEmpty = true
      · rw [if_pos hempty]
        apply fail_succeeds_iff
        rintro ⟨valid, -⟩
        cases hempty.symm.trans (valid.asks rfl)
      · rw [if_neg hempty, changeProject_succeeds_iff]
        constructor
        · rintro ⟨c, c', hload, hchange, hsave⟩
          unfold addWebhooks at hchange
          split_ifs at hchange with hthere
          obtain rfl := Except.ok.inj hchange
          exact ⟨⟨hfault, fun _ => Bool.eq_false_iff.2 hempty⟩, c, hload, hthere, hsave⟩
        · rintro ⟨-, c, hload, hthere, hsave⟩
          exact ⟨c, _, hload, if_pos hthere, hsave⟩
    · apply fail_succeeds_iff
      rintro ⟨valid, -⟩
      exact Option.some_ne_none fault (hfault.symm.trans valid.name)

/-! ## Sequences -/

/-- Whether commands succeed one after another in the project of a folder, from one directory to
another. -/
inductive Succeed (root : String) : Directory → List Creation → Directory → Prop where
  /-- There are no commands. -/
  | nil (d : Directory) : Succeed root d [] d
  /-- A command succeeds, and the others after it. -/
  | cons {d d' : Directory} {s : Creation} {steps : List Creation} {i : Invocation}
      (folder : i.projectDir = root) (success : (s.run i d).failure = none)
      (rest : Succeed root (s.run i d).directory steps d') : Succeed root d (s :: steps) d'

/-- A command that succeeds can come before others. -/
theorem Succeed.step {root : String} {d d₁ d' : Directory} {c : Config} {s : Creation}
    {steps : List Creation} (valid : s.Valid) (loaded : ConfigFile.load d root = .ok (some c))
    (fit : c.hasResource s.name = s.isWebhook)
    (saved : ConfigFile.save d root (s.record c) = .ok d₁) (rest : Succeed root d₁ steps d') :
    Succeed root d (s :: steps) d' := by
  have folder : (⟨"", root, c.version, ⟨"", none⟩, none⟩ : Invocation).projectDir = root := rfl
  obtain ⟨success, hdirectory⟩ := run_succeeds_iff.2 ⟨valid, c, folder ▸ loaded, fit, folder ▸ saved⟩
  rw [← hdirectory] at rest
  exact .cons folder success rest

/-- The subcommand that a command is. -/
def kind : Creation → SubcommandKind
  | .api _ => .createApi
  | .webhook _ => .createWebhook

/-- The matched arguments of a command. -/
def matched : Creation → MatchedCommand
  | .api m => m
  | .webhook m => m

/-- **Whole runs are such sequences:** a run of a host that succeeds with a create command of a layout can
come before others. -/
theorem Succeed.of_runHost {h : Host} {d d' : Directory} {argv : List Text.RawText} {s : Creation}
    {steps : List Creation} (succeeds : h.Succeeds d argv s.kind s.matched)
    (rest : Succeed h.projectDir (Program.runHost h d argv).directory steps d') :
    Succeed h.projectDir d (s :: steps) d' := by
  obtain ⟨asks, hok⟩ := succeeds
  obtain ⟨i, folder, hdirectory, hfailure, -⟩ := asks.runHost_eq
  have hrun : handler s.kind i s.matched d = s.run i d := by
    cases s with
    | api m => rfl
    | webhook m => rfl
  rw [hrun] at hdirectory hfailure
  rw [hdirectory] at rest
  exact .cons folder (hfailure.1 hok) rest

/-- What commands that succeed one after another make of the configuration. -/
def recordAll (c : Config) (steps : List Creation) : Config := steps.foldl (fun c s => s.record c) c

/-- Whether each command finds its resource, or finds that there is none, as it has to be. -/
def Fit : Config → List Creation → Prop
  | _, [] => True
  | c, s :: steps => c.hasResource s.name = s.isWebhook ∧ Fit (s.record c) steps

/-- A command changes nothing but resources. -/
theorem sameProject_record (s : Creation) (c : Config) : c.SameProject (s.record c) := by
  cases s with
  | api m => exact .addResource c _
  | webhook m => exact ⟨rfl, rfl, rfl, rfl⟩

/-- Several commands change nothing but resources. -/
theorem sameProject_recordAll (c : Config) (steps : List Creation) :
    c.SameProject (recordAll c steps) := by
  induction steps generalizing c with
  | nil => exact .refl c
  | cons s steps ih => exact (s.sameProject_record c).trans (ih (s.record c))

/-- **What commands leave that succeed one after another:** each has found the project as it has to be, and
what is saved in the end is saved as if nothing had been saved before. -/
theorem Succeed.spec {root : String} {d d' : Directory} {c : Config} {steps : List Creation}
    (succeed : Succeed root d steps d') (loaded : ConfigFile.load d root = .ok (some c)) :
    Fit c steps ∧ ConfigFile.load d' root = .ok (some (recordAll c steps)) ∧
      (steps ≠ [] → ConfigFile.save d root (recordAll c steps) = .ok d') := by
  induction succeed generalizing c with
  | nil d => exact ⟨trivial, loaded, fun h => absurd rfl h⟩
  | @cons d d' s steps i folder success rest ih =>
    obtain ⟨-, c₀, hload, hfit, hsave⟩ := run_succeeds_iff.1 ⟨success, rfl⟩
    rw [folder] at hload hsave
    obtain rfl := ConfigFile.load_inj hload loaded
    obtain ⟨hrest, hload', hsave'⟩ := ih (ConfigFile.load_save hsave)
    refine ⟨⟨hfit, hrest⟩, hload', fun _ => ?_⟩
    cases rest with
    | nil => exact hsave
    | cons => exact (ConfigFile.save_save hsave _).symm.trans (hsave' (List.cons_ne_nil _ _))

/-! ## What comes of a configuration -/

/-- The resources that commands add, in their order. -/
def added (steps : List Creation) : List ResourceName :=
  (steps.filter fun s => !s.isWebhook).map name

/-- The webhooks that are asked for a resource anywhere. -/
def asked (steps : List Creation) (n : ResourceName) : Webhooks where
  defaulting := steps.any fun s => s.name = n && s.webhooks.defaulting
  validation := steps.any fun s => s.name = n && s.webhooks.validation

/-- A resource with the webhooks that are asked for it. -/
def askedOf (steps : List Creation) (r : Resource) : Resource :=
  { r with webhooks := r.webhooks.union (asked steps r.name) }

/-- What some commands ask for a resource is what the first asks for it, and what the others do. -/
theorem asked_cons (s : Creation) (steps : List Creation) (n : ResourceName) :
    asked (s :: steps) n = (if s.name = n then s.webhooks else {}).union (asked steps n) := by
  by_cases h : s.name = n
  · simp [asked, Webhooks.union, h]
  · simp [asked, Webhooks.union, h]

/-- What commands ask for a resource does not depend on their order. -/
theorem asked_perm {steps steps' : List Creation} (perm : steps.Perm steps') :
    asked steps = asked steps' := by
  funext n
  simp only [asked, perm.any_eq]

/-- What commands make of a resource does not depend on their order. -/
theorem askedOf_perm {steps steps' : List Creation} (perm : steps.Perm steps') :
    askedOf steps = askedOf steps' := by
  funext r
  rw [askedOf, asked_perm perm]
  rfl

/-- The resources that commands add are the same in any order, in another order perhaps. -/
theorem added_perm {steps steps' : List Creation} (perm : steps.Perm steps') :
    (added steps).Perm (added steps') :=
  (perm.filter _).map _

/-- Webhooks add no resources. -/
theorem added_eq_nil {steps : List Creation} (h : ∀ s ∈ steps, s.isWebhook = true) :
    added steps = [] := by
  simpa [added] using h

/-- A command adds the name that it adds, and keeps the others. -/
theorem names_record (s : Creation) (c : Config) :
    (s.record c).resources.map Resource.name = c.resources.map Resource.name ++ added [s] := by
  cases s with
  | api m => simp [record, Config.addResource, added, isWebhook, name]
  | webhook m => simp [record, Config.map_name_updateWebhooks, added, isWebhook]

/-- Names that are distinct stay so. -/
theorem nodup_record {s : Creation} {c : Config} (fit : c.hasResource s.name = s.isWebhook)
    (distinct : (c.resources.map Resource.name).Nodup) :
    ((s.record c).resources.map Resource.name).Nodup := by
  cases s with
  | api m => exact Config.nodup_addResource distinct fit
  | webhook m =>
    rw [names_record]
    simpa [added, isWebhook] using distinct

/-- A resource that is there is not added. -/
theorem notMem_added {c : Config} {steps : List Creation} (fit : Fit c steps) {n : ResourceName}
    (there : n ∈ c.resources.map Resource.name) : n ∉ added steps := by
  induction steps generalizing c with
  | nil => simp [added]
  | cons s steps ih =>
    obtain ⟨hs, hsteps⟩ := fit
    have hrest : n ∉ added steps := by
      apply ih hsteps
      rw [names_record]
      exact List.mem_append_left _ there
    cases s with
    | webhook m => simpa [added, isWebhook] using hrest
    | api m =>
      have hne : n ≠ resourceName m := by
        rintro rfl
        have hthere : true = false := (Config.hasResource_iff.2 there).symm.trans hs
        cases hthere
      have hcons : added (api m :: steps) = resourceName m :: added steps := rfl
      rw [hcons, List.mem_cons, not_or]
      exact ⟨hne, hrest⟩

/-- **What comes of a configuration:** new resources behind the others, and the webhooks that are asked for
each. -/
theorem resources_recordAll {c : Config} {steps : List Creation} (fit : Fit c steps)
    (distinct : (c.resources.map Resource.name).Nodup) :
    (recordAll c steps).resources =
      (c.resources ++ (added steps).map fun n => (⟨n, {}⟩ : Resource)).map (askedOf steps) := by
  induction steps generalizing c with
  | nil =>
    have hsame : askedOf [] = id := by
      funext r
      simp [askedOf, asked, Webhooks.union]
    simp [recordAll, added, hsame]
  | cons s steps ih =>
    obtain ⟨hs, hsteps⟩ := fit
    have hrest := ih hsteps (nodup_record hs distinct)
    have hfold : recordAll c (s :: steps) = recordAll (s.record c) steps := rfl
    rw [hfold, hrest]
    cases s with
    | api m =>
      have hasked : askedOf (api m :: steps) = askedOf steps := by
        funext r
        rw [askedOf, asked_cons, show (api m).webhooks = {} from rfl, ite_self, Webhooks.empty_union]
        rfl
      have hadded : added (api m :: steps) = resourceName m :: added steps := rfl
      rw [hasked, hadded, List.map_cons]
      simp only [record, Config.addResource, List.append_assoc, List.cons_append, List.nil_append]
    | webhook m =>
      have hadded : added (webhook m :: steps) = added steps := rfl
      have hthere : resourceName m ∈ ((webhook m).record c).resources.map Resource.name := by
        rw [names_record]
        exact List.mem_append_left _ (Config.hasResource_iff.1 hs)
      -- a command asks for webhooks of the resource that it names, and of no other
      have hother : ∀ r : Resource, r.name ≠ resourceName m →
          askedOf (webhook m :: steps) r = askedOf steps r := by
        intro r hr
        rw [askedOf, asked_cons, if_neg fun h => hr h.symm, Webhooks.empty_union]
        rfl
      simp only [record, Config.updateWebhooks, Config.modifyFirst_eq_map distinct, hadded,
        List.map_append, List.map_map]
      congr 1
      · apply List.map_congr_left
        intro r _
        by_cases hr : r.name = resourceName m
        · simp only [Function.comp_apply, hr, ↓reduceIte, askedOf, asked_cons, Webhooks.union_assoc]
          rw [if_pos (show (webhook m).name = resourceName m from rfl)]
          rfl
        · simp only [Function.comp_apply, hr, ↓reduceIte, hother r hr]
      · apply List.map_congr_left
        intro n hn
        refine (hother ⟨n, {}⟩ ?_).symm
        rintro rfl
        exact notMem_added hsteps hthere hn

section Reordered

variable {root : String} {d d₁ d₂ : Directory} {c : Config} {steps steps' : List Creation}

/-- Webhooks alone come to the same in any order. -/
theorem recordAll_eq_of_webhooks (fit : Fit c steps) (fit' : Fit c steps')
    (distinct : (c.resources.map Resource.name).Nodup) (perm : steps.Perm steps')
    (webhooks : ∀ s ∈ steps, s.isWebhook = true) : recordAll c steps = recordAll c steps' := by
  have webhooks' : ∀ s ∈ steps', s.isWebhook = true := fun s hs => webhooks s (perm.mem_iff.2 hs)
  apply (sameProject_recordAll c steps).eq_of_resources (sameProject_recordAll c steps')
  rw [resources_recordAll fit distinct, resources_recordAll fit' distinct, added_eq_nil webhooks,
    added_eq_nil webhooks', askedOf_perm perm]

/-- Commands that come to the same configuration leave the same directory. -/
theorem Succeed.directory_eq (first : Succeed root d steps d₁) (second : Succeed root d steps' d₂)
    (loaded : ConfigFile.load d root = .ok (some c)) (perm : steps.Perm steps')
    (same : recordAll c steps = recordAll c steps') : d₁ = d₂ := by
  by_cases hnone : steps = []
  · subst hnone
    obtain rfl := perm.nil_eq
    cases first
    cases second
    rfl
  · have hsome : steps' ≠ [] := fun h => hnone (List.perm_nil.1 (h ▸ perm))
    have hsave := (first.spec loaded).2.2 hnone
    have hsave' := (second.spec loaded).2.2 hsome
    rw [same, hsave'] at hsave
    exact (Except.ok.inj hsave).symm

end Reordered

/-! ## A webhook again -/

/-- Webhooks that are recorded again change nothing. -/
theorem record_again (m : MatchedCommand) (c : Config) :
    (webhook m).record ((webhook m).record c) = (webhook m).record c := by
  simp only [record, Config.updateWebhooks]
  rw [Config.modifyFirst_again]
  · intro r
    rfl
  · intro r
    simp only [Webhooks.union_again]

/-- **A `create webhook` that has succeeded succeeds again,** and leaves the directory as it is. -/
theorem run_webhook_again {m : MatchedCommand} {i i' : Invocation} {d : Directory}
    (folder : i'.projectDir = i.projectDir) (success : ((webhook m).run i d).failure = none) :
    ((webhook m).run i' ((webhook m).run i d).directory).failure = none ∧
      ((webhook m).run i' ((webhook m).run i d).directory).directory =
        ((webhook m).run i d).directory := by
  obtain ⟨valid, c, -, hthere, hsave⟩ := run_succeeds_iff.1 ⟨success, rfl⟩
  refine run_succeeds_iff.2 ⟨valid, (webhook m).record c, ?_, ?_, ?_⟩
  · rw [folder]
    exact ConfigFile.load_save hsave
  · apply Config.hasResource_iff.2
    rw [names_record]
    exact List.mem_append_left _ (Config.hasResource_iff.1 hthere)
  · rw [folder, record_again, ConfigFile.save_save hsave]
    exact hsave

/-! ## Main result -/

/-- **The order of create commands makes hardly any difference.** Let a project file load to a configuration
whose resources have distinct names, and let some `create api` and `create webhook` commands succeed there
one after another, and the same commands in another order as well.

1. Both times the version, the domain, the repository and the layout stay. The resources are those that were
   there and behind them those that the commands add, each with the webhooks that it had and those that any
   command asks for it. So the resources that were there are the same both times, with the same webhooks, and
   the new ones are the same with the same webhooks, perhaps in another order.
2. If all commands are `create webhook`, they leave the same configuration and the same directory, and so
   the same bytes in the project file.
3. In any project, a `create webhook` that has succeeded succeeds again at once, and leaves the directory as
   it is. -/
theorem creations_in_any_order {root : String} {d d₁ d₂ : Directory} {c : Config}
    {steps steps' : List Creation} (loaded : ConfigFile.load d root = .ok (some c))
    (distinct : (c.resources.map Resource.name).Nodup) (perm : steps.Perm steps')
    (first : Succeed root d steps d₁) (second : Succeed root d steps' d₂) :
    (∃ c₁ c₂, ConfigFile.load d₁ root = .ok (some c₁) ∧ ConfigFile.load d₂ root = .ok (some c₂) ∧
      (c.SameProject c₁ ∧ c.SameProject c₂ ∧
        c₁.resources =
          (c.resources ++ (added steps).map fun n => (⟨n, {}⟩ : Resource)).map (askedOf steps) ∧
        c₁.resources.take c.resources.length = c₂.resources.take c.resources.length ∧
        (c₁.resources.drop c.resources.length).Perm (c₂.resources.drop c.resources.length)) ∧
      ((∀ s ∈ steps, s.isWebhook = true) → c₁ = c₂ ∧ d₁ = d₂)) ∧
    ∀ (m : MatchedCommand) (i i' : Invocation) (before : Directory), i'.projectDir = i.projectDir →
      (runCreateWebhook i m before).failure = none →
        (runCreateWebhook i' m (runCreateWebhook i m before).directory).failure = none ∧
        (runCreateWebhook i' m (runCreateWebhook i m before).directory).directory =
          (runCreateWebhook i m before).directory := by
  refine ⟨?_, fun m i i' before folder success => run_webhook_again folder success⟩
  obtain ⟨fit, hload, -⟩ := first.spec loaded
  obtain ⟨fit', hload', -⟩ := second.spec loaded
  have hresources := resources_recordAll fit distinct
  have hresources' := resources_recordAll fit' distinct
  rw [← askedOf_perm perm] at hresources'
  have hlength : (c.resources.map (askedOf steps)).length = c.resources.length := List.length_map ..
  refine ⟨_, _, hload, hload', ⟨sameProject_recordAll c steps, sameProject_recordAll c steps',
    hresources, ?_, ?_⟩, ?_⟩
  · rw [hresources, hresources', List.map_append, List.map_append, List.take_left' hlength,
      List.take_left' hlength]
  · rw [hresources, hresources', List.map_append, List.map_append, List.drop_left' hlength,
      List.drop_left' hlength]
    exact ((added_perm perm).map _).map _
  · intro webhooks
    have same := recordAll_eq_of_webhooks fit fit' distinct perm webhooks
    exact ⟨same, first.directory_eq second loaded perm same⟩

/-- A project with one resource. -/
def harbour : Config where
  version := ⟨"2"⟩
  resources := [⟨⟨"ship", "v1", "Frigate"⟩, {}⟩]

/-- A directory with this project. -/
def harbourDirectory : Directory where
  children := [("PROJECT", .text harbour.render)]

/-- Adds another resource. -/
def boat : Creation :=
  .api ⟨"api", [("group", ["ship"]), ("version", ["v1"]), ("kind", ["Boat"])]⟩

/-- Adds a webhook to the first. -/
def defaulted : Creation :=
  .webhook ⟨"webhook",
    [("group", ["ship"]), ("version", ["v1"]), ("kind", ["Frigate"]), ("defaulting", [])]⟩

/-- The resource and the webhook can be added in either order, and the resources are the same in the end. -/
theorem creations_in_any_order_harbour :
    ∃ d₁ d₂ c₁ c₂, Succeed "." harbourDirectory [boat, defaulted] d₁ ∧
      Succeed "." harbourDirectory [defaulted, boat] d₂ ∧
      ConfigFile.load d₁ "." = .ok (some c₁) ∧ ConfigFile.load d₂ "." = .ok (some c₂) ∧
      c₁.resources.take 1 = c₂.resources.take 1 ∧
      (c₁.resources.drop 1).Perm (c₂.resources.drop 1) := by
  have loaded : ConfigFile.load harbourDirectory "." = .ok (some harbour) :=
    ConfigFile.load_rendered harbour
  have saves : ∀ c, ∃ d, ConfigFile.save harbourDirectory "." c = .ok d := fun c => ⟨_, rfl⟩
  have succeeds : ∀ s s' : Creation, s.Valid → s'.Valid → harbour.hasResource s.name = s.isWebhook →
      (s.record harbour).hasResource s'.name = s'.isWebhook →
      ∃ d, Succeed "." harbourDirectory [s, s'] d := by
    intro s s' valid valid' fit fit'
    obtain ⟨d, saved⟩ := saves (s.record harbour)
    obtain ⟨d', saved'⟩ := saves (s'.record (s.record harbour))
    rw [← ConfigFile.save_save saved] at saved'
    exact ⟨d', .step valid loaded fit saved
      (.step valid' (ConfigFile.load_save saved) fit' saved' (.nil d'))⟩
  have boatValid : boat.Valid := ⟨by decide, by decide⟩
  have defaultedValid : defaulted.Valid := ⟨by decide, by decide⟩
  obtain ⟨d₁, first⟩ := succeeds boat defaulted boatValid defaultedValid (by decide) (by decide)
  obtain ⟨d₂, second⟩ := succeeds defaulted boat defaultedValid boatValid (by decide) (by decide)
  obtain ⟨⟨c₁, c₂, hload₁, hload₂, ⟨-, -, -, hthere, hnew⟩, -⟩, -⟩ :=
    creations_in_any_order loaded (by decide) (.swap defaulted boat []) first second
  exact ⟨d₁, d₂, c₁, c₂, first, second, hload₁, hload₂, hthere, hnew⟩

end Creation

end GoLayout

end Scaffolder
