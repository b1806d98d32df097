import Mathlib.Tactic.SplitIfs
import Scaffolder.GoLayout
import Scaffolder.Proofs.ConfigText
import Scaffolder.Proofs.Directory

/-!
# What happens to a project file

What the handlers of the built-in layouts do to the project file of a folder.

* **`init`** makes a project file that loads to the new configuration (`load_runInit`), and leaves a
  directory alone in which the file loads already (`runInit_of_load`).
* **`create api` and `create webhook`** fail and leave the directory alone, or succeed and record
  something (`runCreateApi_outcomes`, `runCreateWebhook_outcomes`). What is recorded (`Records`) changes
  nothing but the resources of the configuration.
-/

namespace Scaffolder

namespace ConfigFile

/-- A save that succeeds is a write of the configuration's text. -/
theorem save_eq_ok_iff {d d' : Directory} {root : String} {c : Config} :
    save d root c = .ok d' ↔ d.write (path root) c.render = .ok d' := by
  unfold save
  cases d.write (path root) c.render with
  | error cause => simp
  | ok d₁ => simp

/-- **What is saved is loaded.** -/
theorem load_save {d d' : Directory} {root : String} {c : Config} (h : save d root c = .ok d') :
    load d' root = .ok (some c) := by
  unfold load
  rw [Directory.read_write (save_eq_ok_iff.1 h)]
  simp only [c.parse?_render]

/-- The text of a configuration as the project file of the working directory is loaded. -/
theorem load_rendered (c : Config) :
    load { children := [("PROJECT", .text c.render)] } "." = .ok (some c) := by
  have hread (text : String) :
      Directory.read { children := [("PROJECT", .text text)] } (path ".") = .ok text := rfl
  unfold load
  rw [hread]
  simp only [c.parse?_render]

/-- There is a project file where a project loads. -/
theorem exists_of_load {d : Directory} {root : String} {c : Config}
    (h : load d root = .ok (some c)) : d.exists (path root) = true := by
  unfold load at h
  cases hread : d.read (path root) with
  | ok text => exact Directory.exists_of_read hread
  | error cause =>
    rw [hread] at h
    cases cause <;> cases h

/-- There is no project where reading finds no file. -/
theorem load_of_not_found {d : Directory} {root : String}
    (h : d.read (path root) = .error .notFound) : load d root = .ok none := by
  unfold load
  rw [h]

/-- One file loads to one configuration. -/
theorem load_inj {d : Directory} {root : String} {c c' : Config}
    (h : load d root = .ok (some c)) (h' : load d root = .ok (some c')) : c = c' :=
  Option.some.inj (Except.ok.inj (h.symm.trans h'))

/-- What is loaded depends on the text of the project file alone. -/
theorem load_congr {d d' : Directory} {root : String}
    (h : d'.read (path root) = d.read (path root)) : load d' root = load d root := by
  unfold load
  rw [h]

end ConfigFile

/-! ## Kept projects -/

/-- Whether two configurations are of the same project. Only their resources may differ. -/
structure Config.SameProject (c c' : Config) : Prop where
  version : c'.version = c.version
  domain : c'.domain = c.domain
  repo : c'.repo = c.repo
  layout : c'.layout = c.layout

namespace Config.SameProject

/-- A configuration is of its own project. -/
theorem refl (c : Config) : SameProject c c := ⟨rfl, rfl, rfl, rfl⟩

/-- What is of the same project twice is so. -/
theorem trans {c₁ c₂ c₃ : Config} (h : SameProject c₁ c₂) (h' : SameProject c₂ c₃) :
    SameProject c₁ c₃ where
  version := h'.version.trans h.version
  domain := h'.domain.trans h.domain
  repo := h'.repo.trans h.repo
  layout := h'.layout.trans h.layout

/-- One more resource leaves the project the same. -/
theorem addResource (c : Config) (name : ResourceName) : SameProject c (c.addResource name) :=
  ⟨rfl, rfl, rfl, rfl⟩

/-- Other webhooks leave the project the same. -/
theorem updateWebhooks (c : Config) (name : ResourceName) (f : Webhooks → Webhooks) :
    SameProject c (c.updateWebhooks name f) :=
  ⟨rfl, rfl, rfl, rfl⟩

end Config.SameProject

/-- Whether a project that loads in the first directory is still there in the second. -/
def ProjectKept (root : String) (d d' : Directory) : Prop :=
  ∀ c, ConfigFile.load d root = .ok (some c) →
    ∃ c', ConfigFile.load d' root = .ok (some c') ∧ c.SameProject c'

namespace ProjectKept

variable {root : String} {d d₁ d₂ d₃ : Directory}

/-- A directory keeps its project. -/
theorem refl (root : String) (d : Directory) : ProjectKept root d d :=
  fun c h => ⟨c, h, .refl c⟩

/-- What is kept twice is kept. -/
theorem trans (h : ProjectKept root d₁ d₂) (h' : ProjectKept root d₂ d₃) :
    ProjectKept root d₁ d₃ := by
  intro c hload
  obtain ⟨c', hload', hsame⟩ := h c hload
  obtain ⟨c'', hload'', hsame'⟩ := h' c' hload'
  exact ⟨c'', hload'', hsame.trans hsame'⟩

/-- A project is kept where the text of its file is. -/
theorem of_read (h : d₂.read (ConfigFile.path root) = d₁.read (ConfigFile.path root)) :
    ProjectKept root d₁ d₂ :=
  fun c hload => ⟨c, (ConfigFile.load_congr h).trans hload, .refl c⟩

end ProjectKept

/-- A project is saved by saving its configuration to its file. -/
theorem Project.save_eq_ok_iff {d d' : Directory} {root : String} {c : Config} :
    Project.save d ⟨root, c⟩ = .ok d' ↔ ConfigFile.save d root c = .ok d' := by
  unfold Project.save
  cases ConfigFile.save d root c with
  | error e => simp
  | ok d₁ => simp

/-- A project that was saved loads. -/
theorem Project.load_of_save {d d' : Directory} {root : String} {c : Config}
    (h : Project.save d ⟨root, c⟩ = .ok d') : ConfigFile.load d' root = .ok (some c) :=
  ConfigFile.load_save (Project.save_eq_ok_iff.1 h)

/-- **How a project is made.** Where something stands at the path of its file, nothing is done. Otherwise
folders are made, and then something is refused or the file is saved. -/
theorem Project.init_cases (d : Directory) (root : String) (c : Config) :
    (d.exists (ConfigFile.path root) = true ∧
      Project.init d root c = (.error (.alreadyExists root), d)) ∨
    (d.exists (ConfigFile.path root) = false ∧
      ∃ e, Project.init d root c = (.error e, (d.makeFolders root).2)) ∨
    (d.exists (ConfigFile.path root) = false ∧
      ∃ d', Project.save (d.makeFolders root).2 ⟨root, c⟩ = .ok d' ∧
        Project.init d root c = (.ok ⟨root, c⟩, d')) := by
  unfold Project.init
  cases hthere : d.exists (ConfigFile.path root) with
  | true => exact .inl ⟨rfl, if_pos rfl⟩
  | false =>
    right
    simp only [Bool.false_eq_true, ↓reduceIte]
    rcases d.makeFolders root with ⟨cause | u, d₁⟩
    · exact .inl ⟨trivial, _, rfl⟩
    · dsimp only
      cases hsave : Project.save d₁ ⟨root, c⟩ with
      | error e => exact .inl ⟨trivial, e, rfl⟩
      | ok d' => exact .inr ⟨trivial, d', rfl, rfl⟩

/-- A project that was made loads. -/
theorem Project.load_of_init {d d' : Directory} {root : String} {c : Config} {p : Project}
    (h : Project.init d root c = (.ok p, d')) : ConfigFile.load d' root = .ok (some c) := by
  rcases Project.init_cases d root c with ⟨_, hinit⟩ | ⟨_, e, hinit⟩ | ⟨_, d₁, hsave, hinit⟩
  · rw [hinit] at h
    cases h
  · rw [hinit] at h
    cases h
  · rw [hinit] at h
    obtain ⟨_, rfl⟩ := Prod.mk.inj h
    exact Project.load_of_save hsave

/-- A project that is not made leaves the directory alone, or has folders made. -/
theorem Project.directory_of_init_error {d d' : Directory} {root : String} {c : Config}
    {e : ProjectError} (h : Project.init d root c = (.error e, d')) :
    d' = d ∨ d' = (d.makeFolders root).2 := by
  rcases Project.init_cases d root c with ⟨_, hinit⟩ | ⟨_, e', hinit⟩ | ⟨_, d₁, _, hinit⟩
  · rw [hinit] at h
    exact .inl (Prod.mk.inj h).2.symm
  · rw [hinit] at h
    exact .inr (Prod.mk.inj h).2.symm
  · rw [hinit] at h
    cases (Prod.mk.inj h).1

/-! ## Handlers -/

namespace GoLayout

/-- **`init` makes the project.** Where it succeeds, the project file loads to the new
configuration. -/
theorem load_runInit {i : Invocation} {m : MatchedCommand} {d : Directory}
    (h : (runInit i m d).failure = none) :
    ConfigFile.load (runInit i m d).directory i.projectDir = .ok (some (newConfig i
      ((m.value? "domain").getD defaultDomain) ((m.value? "repo").getD ""))) := by
  unfold runInit at h ⊢
  simp only at h ⊢
  split at h
  · cases h
  · next project d' hinit => exact Project.load_of_init hinit

/-- `init` leaves a project alone. -/
theorem runInit_of_load {i : Invocation} {d : Directory} {c : Config} (m : MatchedCommand)
    (h : ConfigFile.load d i.projectDir = .ok (some c)) : (runInit i m d).directory = d := by
  unfold runInit Project.init
  simp only [if_pos (ConfigFile.exists_of_load h)]
  rfl

/-- **An `init` that fails** leaves the directory alone, or has folders made. -/
theorem directory_of_runInit_failed {i : Invocation} {m : MatchedCommand} {d : Directory}
    (failed : (runInit i m d).failure ≠ none) :
    (runInit i m d).directory = d ∨ (runInit i m d).directory = (d.makeFolders i.projectDir).2 := by
  unfold runInit at failed ⊢
  dsimp only at failed ⊢
  split
  · next e d' hinit => exact Project.directory_of_init_error hinit
  · next project d' hinit =>
    rw [hinit] at failed
    exact absurd rfl failed

/-- `init` leaves the directory alone, or the project file loads to a new configuration, where no
folder is to be made for the project. -/
theorem runInit_cases {i : Invocation} (m : MatchedCommand) {d : Directory}
    (folder : (d.makeFolders i.projectDir).2 = d) :
    (runInit i m d).directory = d ∨ ∃ domain repo,
      ConfigFile.load (runInit i m d).directory i.projectDir =
        .ok (some (newConfig i domain repo)) := by
  by_cases hok : (runInit i m d).failure = none
  · exact .inr ⟨_, _, load_runInit hok⟩
  · left
    rcases directory_of_runInit_failed hok with hsame | hmade
    · exact hsame
    · exact hmade.trans folder

/-- **A change of the configuration** fails and leaves the directory alone, or succeeds, and the project
file loads to what the change makes of the configuration that it loaded to before. -/
theorem changeProject_outcomes (d : Directory) (root done : String)
    (change : Config → Except String Config) :
    ((changeProject d root change done).failure ≠ none ∧
      (changeProject d root change done).directory = d) ∨
    ((changeProject d root change done).failure = none ∧
      ∃ c c', ConfigFile.load d root = .ok (some c) ∧ change c = .ok c' ∧
        ConfigFile.load (changeProject d root change done).directory root = .ok (some c')) := by
  unfold changeProject Project.open
  rcases hload : ConfigFile.load d root with e | _ | c
  · exact .inl ⟨Option.some_ne_none _, rfl⟩
  · exact .inl ⟨Option.some_ne_none _, rfl⟩
  · simp only
    rcases hc : change c with reason | c'
    · exact .inl ⟨Option.some_ne_none _, rfl⟩
    · simp only
      rcases hsave : Project.save d ⟨root, c'⟩ with e | d'
      · exact .inl ⟨Option.some_ne_none _, rfl⟩
      · exact .inr ⟨rfl, c, c', rfl, hc, Project.load_of_save hsave⟩

/-- **`create api`** fails and leaves the directory alone, or adds the resource that it names, which was
not there. -/
theorem runCreateApi_outcomes (i : Invocation) (m : MatchedCommand) (d : Directory) :
    ((runCreateApi i m d).failure ≠ none ∧ (runCreateApi i m d).directory = d) ∨
    ((runCreateApi i m d).failure = none ∧ (resourceName m).fault? = none ∧
      ∃ c, ConfigFile.load d i.projectDir = .ok (some c) ∧ c.hasResource (resourceName m) = false ∧
        ConfigFile.load (runCreateApi i m d).directory i.projectDir =
          .ok (some (c.addResource (resourceName m)))) := by
  simp only [runCreateApi]
  rcases hfault : (resourceName m).fault? with _ | fault
  · refine (changeProject_outcomes d i.projectDir _ _).imp_right ?_
    rintro ⟨hok, c, c', hload, hchange, hload'⟩
    unfold addApi at hchange
    split_ifs at hchange with hnew
    obtain rfl := Except.ok.inj hchange
    exact ⟨hok, rfl, c, hload, Bool.eq_false_iff.2 hnew, hload'⟩
  · exact .inl ⟨Option.some_ne_none _, rfl⟩

/-- **`create webhook`** fails and leaves the directory alone, or adds the webhooks that are asked for to
those of the resource that it names, which was there. -/
theorem runCreateWebhook_outcomes (i : Invocation) (m : MatchedCommand) (d : Directory) :
    ((runCreateWebhook i m d).failure ≠ none ∧ (runCreateWebhook i m d).directory = d) ∨
    ((runCreateWebhook i m d).failure = none ∧ (resourceName m).fault? = none ∧
      ∃ c, ConfigFile.load d i.projectDir = .ok (some c) ∧ c.hasResource (resourceName m) = true ∧
        ConfigFile.load (runCreateWebhook i m d).directory i.projectDir =
          .ok (some (c.updateWebhooks (resourceName m) fun v => v.union (webhooks m)))) := by
  simp only [runCreateWebhook]
  rcases hfault : (resourceName m).fault? with _ | fault
  · simp only
    split_ifs
    · exact .inl ⟨Option.some_ne_none _, rfl⟩
    · refine (changeProject_outcomes d i.projectDir _ _).imp_right ?_
      rintro ⟨hok, c, c', hload, hchange, hload'⟩
      unfold addWebhooks at hchange
      split_ifs at hchange with hthere
      obtain rfl := Except.ok.inj hchange
      exact ⟨hok, trivial, c, hload, hthere, hload'⟩
  · exact .inl ⟨Option.some_ne_none _, rfl⟩

/-- What `create api` and `create webhook` make of a configuration. -/
inductive Records (c : Config) : Config → Prop
  /-- A resource is added, under a name that a resource may have and that no other has. -/
  | resource {name : ResourceName} (valid : name.fault? = none)
      (new : c.hasResource name = false) : Records c (c.addResource name)
  /-- The webhooks of a resource change. -/
  | webhooks (name : ResourceName) (f : Webhooks → Webhooks) : Records c (c.updateWebhooks name f)

/-- What is recorded leaves the project the same. -/
theorem Records.sameProject {c c' : Config} (h : Records c c') : c.SameProject c' := by
  cases h with
  | resource valid new => exact .addResource c _
  | webhooks name f => exact .updateWebhooks c name f

/-- **What `create api` and `create webhook` do to a project.** They leave the directory alone, or
record something in the configuration that the project file loads to. -/
theorem create_cases {run : Invocation → MatchedCommand → Directory → Outcome}
    (h : run = runCreateApi ∨ run = runCreateWebhook) (i : Invocation) (m : MatchedCommand)
    (d : Directory) :
    (run i m d).directory = d ∨ ∃ c c', ConfigFile.load d i.projectDir = .ok (some c) ∧
      Records c c' ∧ ConfigFile.load (run i m d).directory i.projectDir = .ok (some c') := by
  rcases h with rfl | rfl
  · rcases runCreateApi_outcomes i m d with ⟨_, hsame⟩ | ⟨_, hfault, c, hload, hnew, hload'⟩
    · exact .inl hsame
    · exact .inr ⟨c, _, hload, .resource hfault hnew, hload'⟩
  · rcases runCreateWebhook_outcomes i m d with ⟨_, hsame⟩ | ⟨_, _, c, hload, _, hload'⟩
    · exact .inl hsame
    · exact .inr ⟨c, _, hload, .webhooks _ _, hload'⟩

/-- The handlers of the layouts. -/
def IsHandler (run : Invocation → MatchedCommand → Directory → Outcome) : Prop :=
  run = runInit ∨ run = runCreateApi ∨ run = runCreateWebhook

/-- **The handlers of the layouts keep a project.** -/
theorem projectKept_of_isHandler {run : Invocation → MatchedCommand → Directory → Outcome}
    (h : IsHandler run) (i : Invocation) (m : MatchedCommand) (d : Directory) :
    ProjectKept i.projectDir d (run i m d).directory := by
  intro c hload
  rcases h with rfl | hcreate
  · rw [runInit_of_load m hload]
    exact ⟨c, hload, .refl c⟩
  · rcases create_cases hcreate i m d with hsame | ⟨c₁, c', hload₁, hrecords, hload'⟩
    · rw [hsame]
      exact ⟨c, hload, .refl c⟩
    · obtain rfl := ConfigFile.load_inj hload₁ hload
      exact ⟨c', hload', hrecords.sameProject⟩

end GoLayout

end Scaffolder
