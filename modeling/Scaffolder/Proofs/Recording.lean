import Scaffolder.Proofs.Writing

/-!
# What is recorded in a project

The exact effect of the create commands on the configuration that the project file loads to, over any
runs.

* **Names** (`GoLayout.names_of_fault?`): a create command that is not refused for the name of its resource
  was given a group, a version and a kind, and the resource has these.
* **One run** (`effect_runHost`): a `create api` that succeeds adds the resource at the end, which was not
  there; a `create webhook` that succeeds sets flags of the first resource of the name, which was there;
  any other run changes nothing.
* **Any number of runs** (`grows_after`): nothing but the list of resources changes, what is in it keeps
  its place, name and webhooks, and names stay distinct (`Config.Grows`).

Each run loads and writes the whole file, so all of this rests on a configuration loading as it was
saved (`ConfigFile.load_save`).
-/

namespace Scaffolder

open Text (RawText)

/-! ## Resources -/

/-- Whether a resource is the same but for further webhooks. -/
structure Resource.Keeps (r r' : Resource) : Prop where
  name : r'.name = r.name
  defaulting : r.webhooks.defaulting = true → r'.webhooks.defaulting = true
  validation : r.webhooks.validation = true → r'.webhooks.validation = true

namespace Resource.Keeps

/-- A resource is the same as itself. -/
theorem refl (r : Resource) : r.Keeps r := ⟨rfl, id, id⟩

/-- What is the same but for further webhooks twice is so. -/
theorem trans {r₁ r₂ r₃ : Resource} (h : r₁.Keeps r₂) (h' : r₂.Keeps r₃) : r₁.Keeps r₃ where
  name := h'.name.trans h.name
  defaulting := h'.defaulting ∘ h.defaulting
  validation := h'.validation ∘ h.validation

/-- Webhooks that are added leave those that are there. -/
theorem union (r : Resource) (w : Webhooks) : r.Keeps { r with webhooks := r.webhooks.union w } where
  name := rfl
  defaulting h := Bool.or_eq_true_iff.2 (.inl h)
  validation h := Bool.or_eq_true_iff.2 (.inl h)

end Resource.Keeps

namespace Config

/-- Whether a configuration comes from another by recording: only resources are added, behind the
others, and webhooks to them. -/
structure Grows (c c' : Config) : Prop where
  /-- Nothing else changes. -/
  same : c.SameProject c'
  /-- A resource stays where it is and keeps its name and webhooks. -/
  kept : ∀ (i : Nat) (r : Resource), c.resources[i]? = some r → ∃ r', c'.resources[i]? = some r' ∧ r.Keeps r'
  /-- Names that are distinct stay so. -/
  distinct : (c.resources.map Resource.name).Nodup → (c'.resources.map Resource.name).Nodup

namespace Grows

/-- Nothing is recorded. -/
theorem refl (c : Config) : c.Grows c := ⟨.refl c, fun _ r h => ⟨r, h, .refl r⟩, id⟩

/-- What is recorded later comes on top. -/
theorem trans {c₁ c₂ c₃ : Config} (h : c₁.Grows c₂) (h' : c₂.Grows c₃) : c₁.Grows c₃ where
  same := h.same.trans h'.same
  kept i r hr := by
    obtain ⟨r₂, hr₂, hkeeps⟩ := h.kept i r hr
    obtain ⟨r₃, hr₃, hkeeps'⟩ := h'.kept i r₂ hr₂
    exact ⟨r₃, hr₃, hkeeps.trans hkeeps'⟩
  distinct := h'.distinct ∘ h.distinct

/-- A resource that is new is added. -/
theorem addResource {c : Config} {name : ResourceName} (new : c.hasResource name = false) :
    c.Grows (c.addResource name) where
  same := .addResource c name
  kept i r hr := by
    refine ⟨r, ?_, .refl r⟩
    obtain ⟨hi, _⟩ := List.getElem?_eq_some_iff.1 hr
    exact (List.getElem?_append_left hi).trans hr
  distinct h := nodup_addResource h new

end Grows

/-- Only the element that is changed is another, and none changes its place. -/
theorem getElem?_modifyFirst (p : Resource → Bool) (f : Resource → Resource) {rs : List Resource}
    {i : Nat} {r : Resource} (h : rs[i]? = some r) :
    (modifyFirst p f rs)[i]? = some r ∨ (modifyFirst p f rs)[i]? = some (f r) := by
  induction rs generalizing i with
  | nil => cases h
  | cons first rs ih =>
    unfold modifyFirst
    split_ifs
    · cases i with
      | zero =>
        obtain rfl := Option.some.inj h
        exact .inr rfl
      | succ i => exact .inl h
    · cases i with
      | zero => exact .inl h
      | succ i => exact ih h

/-- Webhooks are added to a resource. -/
theorem Grows.addWebhooks (c : Config) (name : ResourceName) (w : Webhooks) :
    c.Grows (c.updateWebhooks name fun v => v.union w) where
  same := .updateWebhooks c name _
  kept i r hr := by
    rcases getElem?_modifyFirst (fun r => r.name = name)
      (fun r => { r with webhooks := r.webhooks.union w }) hr with h | h
    · exact ⟨r, h, .refl r⟩
    · exact ⟨_, h, .union r w⟩
  distinct h := by
    rw [map_name_updateWebhooks]
    exact h

/-- The first resource of a name is the one whose webhooks are changed. -/
theorem exists_split_of_hasResource {c : Config} {name : ResourceName}
    (there : c.hasResource name = true) (f : Webhooks → Webhooks) :
    ∃ before r after, c.resources = before ++ r :: after ∧ (∀ r' ∈ before, r'.name ≠ name) ∧
      r.name = name ∧
      c.updateWebhooks name f =
        { c with resources := before ++ { r with webhooks := f r.webhooks } :: after } := by
  have split : ∀ rs : List Resource, (rs.any fun r => r.name = name) = true →
      ∃ before r after, rs = before ++ r :: after ∧ (∀ r' ∈ before, r'.name ≠ name) ∧
        r.name = name ∧ modifyFirst (fun r => r.name = name)
          (fun r => { r with webhooks := f r.webhooks }) rs =
            before ++ { r with webhooks := f r.webhooks } :: after := by
    intro rs hany
    induction rs with
    | nil => cases hany
    | cons r rs ih =>
      by_cases hr : r.name = name
      · refine ⟨[], r, rs, rfl, List.forall_mem_nil _, hr, ?_⟩
        rw [modifyFirst, if_pos (decide_eq_true hr)]
        rfl
      · rw [List.any_cons, decide_eq_false hr, Bool.false_or] at hany
        obtain ⟨before, r', after, hrs, hbefore, hname, hmodified⟩ := ih hany
        refine ⟨r :: before, r', after, ?_, List.forall_mem_cons.2 ⟨hr, hbefore⟩, hname, ?_⟩
        · rw [hrs, List.cons_append]
        · rw [modifyFirst, if_neg (by simpa using hr), hmodified, List.cons_append]
  obtain ⟨before, r, after, hsplit, hbefore, hname, hmodified⟩ := split c.resources there
  refine ⟨before, r, after, hsplit, hbefore, hname, ?_⟩
  unfold updateWebhooks
  rw [hmodified]

end Config

/-! ## One run -/

/-- A project file that is the same loads to the same configuration. -/
theorem ConfigFile.load_of_look {d d' : Directory} {root : String} {c : Config}
    (same : d'.look (path root) = d.look (path root)) (loaded : load d root = .ok (some c)) :
    load d' root = .ok (some c) := by
  have hread : d'.read (path root) = d.read (path root) := by
    have there := exists_of_load loaded
    unfold Directory.exists at there
    obtain ⟨e, hlook⟩ := Option.isSome_iff_exists.1 there
    have hlook' := same.trans hlook
    unfold Directory.read
    rw [Directory.look_eq_some_iff.1 hlook, Directory.look_eq_some_iff.1 hlook']
  rw [load_congr hread, loaded]

/-- Whether matched arguments give the group, the version and the kind of a resource. -/
structure MatchedCommand.Names (m : MatchedCommand) (name : ResourceName) : Prop where
  group : m.value? "group" = some name.group
  version : m.value? "version" = some name.version
  kind : m.value? "kind" = some name.kind

/-- Whether arguments name a resource can be computed. -/
instance (m : MatchedCommand) (name : ResourceName) : Decidable (m.Names name) :=
  decidable_of_iff (m.value? "group" = some name.group ∧ m.value? "version" = some name.version ∧
      m.value? "kind" = some name.kind)
    ⟨fun ⟨hgroup, hversion, hkind⟩ => ⟨hgroup, hversion, hkind⟩,
      fun ⟨hgroup, hversion, hkind⟩ => ⟨hgroup, hversion, hkind⟩⟩

/-- Arguments name one resource. -/
theorem MatchedCommand.Names.eq {m : MatchedCommand} {name name' : ResourceName} (h : m.Names name)
    (h' : m.Names name') : name = name' := by
  obtain ⟨group, version, kind⟩ := name
  obtain rfl := Option.some.inj (h.group.symm.trans h'.group)
  obtain rfl := Option.some.inj (h.version.symm.trans h'.version)
  obtain rfl := Option.some.inj (h.kind.symm.trans h'.kind)
  rfl

namespace GoLayout

/-- **The resource that is recorded is the one that is given:** an option that is left out has no value that
a resource may have. -/
theorem names_of_fault? {m : MatchedCommand} (valid : (resourceName m).fault? = none) :
    m.Names (resourceName m) := by
  have given (id : String) (hne : (m.value? id).getD "" ≠ "") :
      m.value? id = some ((m.value? id).getD "") := by
    cases hvalue : m.value? id with
    | some value => rfl
    | none =>
      rw [hvalue] at hne
      exact absurd rfl hne
  unfold ResourceName.fault? at valid
  split_ifs at valid with hgroup hversion hkind
  constructor
  · refine given "group" fun hempty => hgroup ?_
    simp only [resourceName, hempty]
    rfl
  · refine given "version" fun hempty => hversion ?_
    simp only [resourceName, hempty]
    rfl
  · refine given "kind" fun hempty => hkind ?_
    simp only [resourceName, hempty]
    rfl

end GoLayout

namespace Host

/-- What a run does to the configuration that the project file of a host loads to. -/
structure Effect (h : Host) (d : Directory) (c : Config) (argv : List RawText) : Prop where
  /-- A `create api` that succeeds adds the resource that it is given, which was not there, at the end and
  without webhooks. -/
  api : ∀ m, h.Succeeds d argv .createApi m → ∃ name, m.Names name ∧
    (∀ r ∈ c.resources, r.name ≠ name) ∧
      ConfigFile.load (Program.runHost h d argv).directory h.projectDir =
        .ok (some { c with resources := c.resources ++ [⟨name, ⟨false, false⟩⟩] })
  /-- A `create webhook` that succeeds finds the resource that it is given and sets flags of the first one
  of that name: each is set afterwards if it was set or is given. -/
  webhook : ∀ m, h.Succeeds d argv .createWebhook m → ∃ before r after, m.Names r.name ∧
    c.resources = before ++ r :: after ∧ (∀ r' ∈ before, r'.name ≠ r.name) ∧
      ConfigFile.load (Program.runHost h d argv).directory h.projectDir =
        .ok (some { c with
          resources := before ++
            ⟨r.name, ⟨r.webhooks.defaulting || m.has "defaulting",
              r.webhooks.validation || m.has "programmatic_validation"⟩⟩ :: after })
  /-- Any other run changes nothing. -/
  other : (∀ m, ¬ h.Succeeds d argv .createApi m) → (∀ m, ¬ h.Succeeds d argv .createWebhook m) →
    ConfigFile.load (Program.runHost h d argv).directory h.projectDir = .ok (some c)

variable {h : Host} {d : Directory} {c : Config}

/-- What a `create api` records that succeeds. -/
theorem Succeeds.createApi {argv : List RawText} {m : MatchedCommand}
    (loaded : ConfigFile.load d h.projectDir = .ok (some c))
    (succeeds : h.Succeeds d argv .createApi m) :
    m.Names (GoLayout.resourceName m) ∧ c.hasResource (GoLayout.resourceName m) = false ∧
      ConfigFile.load (Program.runHost h d argv).directory h.projectDir =
        .ok (some (c.addResource (GoLayout.resourceName m))) := by
  obtain ⟨asks, hok⟩ := succeeds
  obtain ⟨i, hi, hdirectory, hfailure, _⟩ := asks.runHost_eq
  rcases GoLayout.runCreateApi_outcomes i m d with
    ⟨hfailed, _⟩ | ⟨_, hvalid, c', hload, hnew, hload'⟩
  · exact absurd (hfailure.1 hok) hfailed
  · rw [hi] at hload hload'
    obtain rfl := ConfigFile.load_inj hload loaded
    rw [hdirectory]
    exact ⟨GoLayout.names_of_fault? hvalid, hnew, hload'⟩

/-- What a `create webhook` records that succeeds. -/
theorem Succeeds.createWebhook {argv : List RawText} {m : MatchedCommand}
    (loaded : ConfigFile.load d h.projectDir = .ok (some c))
    (succeeds : h.Succeeds d argv .createWebhook m) :
    m.Names (GoLayout.resourceName m) ∧ c.hasResource (GoLayout.resourceName m) = true ∧
      ConfigFile.load (Program.runHost h d argv).directory h.projectDir =
        .ok (some (c.updateWebhooks (GoLayout.resourceName m) fun v =>
          v.union (GoLayout.webhooks m))) := by
  obtain ⟨asks, hok⟩ := succeeds
  obtain ⟨i, hi, hdirectory, hfailure, _⟩ := asks.runHost_eq
  rcases GoLayout.runCreateWebhook_outcomes i m d with
    ⟨hfailed, _⟩ | ⟨_, hvalid, c', hload, hthere, hload'⟩
  · exact absurd (hfailure.1 hok) hfailed
  · rw [hi] at hload hload'
    obtain rfl := ConfigFile.load_inj hload loaded
    rw [hdirectory]
    exact ⟨GoLayout.names_of_fault? hvalid, hthere, hload'⟩

/-- Where a project is, a handler of a layout that fails, or makes a project, changes nothing. -/
theorem load_of_not_succeeds (others : h.OthersKeepFile)
    (loaded : ConfigFile.load d h.projectDir = .ok (some c)) (argv : List RawText)
    (noApi : ∀ m, ¬ h.Succeeds d argv .createApi m)
    (noWebhook : ∀ m, ¬ h.Succeeds d argv .createWebhook m) :
    ConfigFile.load (Program.runHost h d argv).directory h.projectDir = .ok (some c) := by
  rcases look_runHost_cases others d argv with hsame | ⟨kind, m, asks⟩
  · exact ConfigFile.load_of_look hsame loaded
  · obtain ⟨i, hi, hdirectory, hfailure, _⟩ := asks.runHost_eq
    have hsame : (Program.runHost h d argv).directory = d := by
      rw [hdirectory]
      cases kind with
      | init =>
        rw [← hi] at loaded
        exact GoLayout.runInit_of_load m loaded
      | createApi =>
        rcases GoLayout.runCreateApi_outcomes i m d with ⟨_, hsame⟩ | ⟨hok, _⟩
        · exact hsame
        · exact absurd ⟨asks, hfailure.2 hok⟩ (noApi m)
      | createWebhook =>
        rcases GoLayout.runCreateWebhook_outcomes i m d with ⟨_, hsame⟩ | ⟨hok, _⟩
        · exact hsame
        · exact absurd ⟨asks, hfailure.2 hok⟩ (noWebhook m)
    rw [hsame]
    exact loaded

/-- **What one run does to a configuration.** -/
theorem effect_runHost (others : h.OthersKeepFile)
    (loaded : ConfigFile.load d h.projectDir = .ok (some c)) (argv : List RawText) :
    h.Effect d c argv where
  api m succeeds := by
    obtain ⟨names, new, hload⟩ := succeeds.createApi loaded
    refine ⟨_, names, fun r hr hname => ?_, hload⟩
    have there : c.hasResource (GoLayout.resourceName m) = true :=
      Config.hasResource_iff.2 (List.mem_map.2 ⟨r, hr, hname⟩)
    cases new.symm.trans there
  webhook m succeeds := by
    obtain ⟨names, there, hload⟩ := succeeds.createWebhook loaded
    obtain ⟨before, r, after, hsplit, hbefore, hname, hupdated⟩ :=
      Config.exists_split_of_hasResource there fun v => v.union (GoLayout.webhooks m)
    rw [hupdated] at hload
    rw [← hname] at names hbefore
    exact ⟨before, r, after, names, hsplit, hbefore, hload⟩
  other noApi noWebhook := load_of_not_succeeds others loaded argv noApi noWebhook

/-! ## Any number of runs -/

/-- **One run** keeps all that is recorded. -/
theorem grows_runHost (others : h.OthersKeepFile)
    (loaded : ConfigFile.load d h.projectDir = .ok (some c)) (argv : List RawText) :
    ∃ c', ConfigFile.load (Program.runHost h d argv).directory h.projectDir = .ok (some c') ∧
      c.Grows c' := by
  by_cases hapi : ∃ m, h.Succeeds d argv .createApi m
  · obtain ⟨m, succeeds⟩ := hapi
    obtain ⟨_, new, hload⟩ := succeeds.createApi loaded
    exact ⟨_, hload, .addResource new⟩
  · by_cases hwebhook : ∃ m, h.Succeeds d argv .createWebhook m
    · obtain ⟨m, succeeds⟩ := hwebhook
      obtain ⟨_, _, hload⟩ := succeeds.createWebhook loaded
      exact ⟨_, hload, .addWebhooks c _ _⟩
    · refine ⟨c, load_of_not_succeeds others loaded argv ?_ ?_, .refl c⟩
      · exact fun m succeeds => hapi ⟨m, succeeds⟩
      · exact fun m succeeds => hwebhook ⟨m, succeeds⟩

/-- **Any number of runs** keep all that is recorded. -/
theorem grows_after (others : h.OthersKeepFile)
    (loaded : ConfigFile.load d h.projectDir = .ok (some c)) (runs : List (List RawText)) :
    ∃ c', ConfigFile.load (h.after d runs) h.projectDir = .ok (some c') ∧ c.Grows c' := by
  induction runs generalizing d c with
  | nil => exact ⟨c, loaded, .refl c⟩
  | cons argv runs ih =>
    obtain ⟨c₁, hload, hgrows⟩ := grows_runHost others loaded argv
    obtain ⟨c₂, hload', hgrows'⟩ := ih hload
    exact ⟨c₂, hload', hgrows.trans hgrows'⟩

/-- **What the create commands record, over any runs.** Let nothing but the built-in layouts write the
project file, and let it load to a configuration. After any runs, whatever they ask for and whether they
succeed, it loads to one with the same version, domain, repository and layout, in which each resource is
still where it was, with the same name and with all webhooks that it had, and in which names are distinct
if they were so at first. And whatever run comes next, its effect on that configuration is exactly that
of `Effect`. -/
theorem resources_recorded (others : h.OthersKeepFile)
    (loaded : ConfigFile.load d h.projectDir = .ok (some c)) (runs : List (List RawText)) :
    ∃ c₁, ConfigFile.load (h.after d runs) h.projectDir = .ok (some c₁) ∧ c.Grows c₁ ∧
      ∀ argv, h.Effect (h.after d runs) c₁ argv := by
  obtain ⟨c₁, hload, hgrows⟩ := grows_after others loaded runs
  exact ⟨c₁, hload, hgrows, effect_runHost others hload⟩

/-- Of the program as it ships, a run that asks for a subcommand of a plugin and does not fail succeeds with
it. -/
theorem exists_succeeds (kind : SubcommandKind) (d : Directory) (argv : List RawText)
    (holds : MatchedCommand → Bool)
    (asks : (asksFor kind.label (fun _ _ m => holds m) (Program.host.bootstrap d argv) &&
      (Program.runHost Program.host d argv).failure.isNone) = true) :
    ∃ m, Program.host.Succeeds d argv kind m ∧ holds m = true := by
  obtain ⟨asks, ok⟩ := Bool.and_eq_true_iff.1 asks
  obtain ⟨s, p, c, m, started, chosen, hholds⟩ := exists_of_asksFor _ _ asks
  have hbatch := (offered_of_provided started chosen).1
  have layout := Program.isLayout_of_shipped (Program.eq_layout_of_mem_batches hbatch)
  exact ⟨m, ⟨⟨s, p, c, started, chosen, layout⟩, Option.isNone_iff_eq_none.1 ok⟩, hholds⟩

/-- A project that has a resource with a webhook. -/
def frigate : Config where
  version := ⟨"2"⟩
  resources := [⟨⟨"ship", "v1", "Frigate"⟩, ⟨false, true⟩⟩]

/-- A directory with this project. -/
def frigateDirectory : Directory where
  children := [("PROJECT", .text frigate.render)]

/-- Another webhook of the resource. -/
def defaultingRun : List RawText :=
  ["scaffold", "create", "webhook", "--group", "ship", "--version", "v1", "--kind", "Frigate",
    "--defaulting"].map RawText.ofString

/-- Another resource. -/
def boatRun : List RawText :=
  ["scaffold", "create", "api", "--group", "ship", "--version", "v1", "--kind", "Boat"].map
    RawText.ofString

/-- The webhook is recorded beside the one that was there, and then the other resource behind the first. -/
theorem resources_recorded_frigate :
    (∃ m, Program.host.Succeeds frigateDirectory defaultingRun .createWebhook m) ∧
      (∃ m, Program.host.Succeeds (Program.host.after frigateDirectory [defaultingRun]) boatRun
        .createApi m) ∧
      ConfigFile.load (Program.host.after frigateDirectory [defaultingRun, boatRun]) "." =
        .ok (some { frigate with
          resources := [⟨⟨"ship", "v1", "Frigate"⟩, ⟨true, true⟩⟩,
            ⟨⟨"ship", "v1", "Boat"⟩, ⟨false, false⟩⟩] }) := by
  have others : Program.host.OthersKeepFile := othersKeepFile_of_shipped (fun _ he => he) rfl
  have folder : Program.host.projectDir = "." := rfl
  have loaded : ConfigFile.load frigateDirectory Program.host.projectDir = .ok (some frigate) := by
    rw [folder]
    exact ConfigFile.load_rendered frigate
  obtain ⟨m, webhook, hm⟩ := exists_succeeds .createWebhook frigateDirectory defaultingRun
    (fun m => m.has "defaulting" && !m.has "programmatic_validation") (by decide +kernel)
  obtain ⟨m', api, hm'⟩ := exists_succeeds .createApi
    (Program.host.after frigateDirectory [defaultingRun]) boatRun
    (fun m => decide (m.Names ⟨"ship", "v1", "Boat"⟩)) (by decide +kernel)
  refine ⟨⟨m, webhook⟩, ⟨m', api⟩, ?_⟩
  rw [after_cons, after_nil] at api
  rw [after_cons, after_cons, after_nil, ← folder]
  -- The first run, from the project as it was.
  obtain ⟨c, hload, -, effect⟩ := resources_recorded others loaded []
  rw [after_nil] at hload effect
  obtain rfl := ConfigFile.load_inj hload loaded
  obtain ⟨before, r, after, -, hsplit, -, loaded₁⟩ := (effect defaultingRun).webhook m webhook
  obtain ⟨rfl, rfl, rfl⟩ : before = [] ∧ r = ⟨⟨"ship", "v1", "Frigate"⟩, ⟨false, true⟩⟩ ∧
      after = [] := by
    rcases before with _ | ⟨first, before⟩
    · obtain ⟨rfl, rfl⟩ := List.cons.inj hsplit
      exact ⟨rfl, rfl, rfl⟩
    · have hlength := congrArg List.length hsplit
      simp [frigate] at hlength
  rw [Bool.and_eq_true, Bool.not_eq_true'] at hm
  rw [hm.1, hm.2] at loaded₁
  -- The second run, from what the first has left.
  obtain ⟨c₁, hload₁, -, effect₁⟩ := resources_recorded others loaded [defaultingRun]
  rw [after_cons, after_nil] at hload₁ effect₁
  obtain rfl := ConfigFile.load_inj hload₁ loaded₁
  obtain ⟨name, names, -, loaded₂⟩ := (effect₁ boatRun).api m' api
  obtain rfl := names.eq (of_decide_eq_true hm')
  exact loaded₂

end Host

end Scaffolder
