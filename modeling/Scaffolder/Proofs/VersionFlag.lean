import Scaffolder.Proofs.Arguments.Items
import Scaffolder.Proofs.ConfigText
import Scaffolder.Proofs.ProjectVersion
import Scaffolder.Proofs.Runs

/-!
# The version flag inside a project

In a project the version is the project's own, and what `--project-version` says has no influence.

* **The first generation** (`ProjectVersion.isLegacy_iff`): which versions are no longer supported, told
  by their texts. A document without a version is of that generation (`Config.version_of_versionless`).
* **First looks** (`Prescan.AlikeButVersion`): two of them that agree on all but the version that is asked
  for go on to agree, whatever arguments come next.
* **Starts** (`StartsAlike`): runs with such first looks start alike in a project, or fail alike
  (`Host.bootstrap_startsAlike`), since only a run outside projects asks for the version.

`version_flag_in_project` puts these together.
-/

namespace Scaffolder

open Text (RawText)

/-! ## The first generation -/

namespace ProjectVersion

/-- Whether a version is of the first generation: the number alone, or with a stage of ASCII lower-case
letters and digits behind a hyphen. -/
def FirstGeneration (v : ProjectVersion) : Prop :=
  v.text = "1" ∨
    ∃ stage : List Char, stage ≠ [] ∧ (∀ c ∈ stage, Text.isLowerOrDigit c) ∧
      v.text = "1-" ++ String.ofList stage

/-- **The versions that are no longer supported** are those of the first generation. -/
theorem isLegacy_iff {v : ProjectVersion} : v.isLegacy = true ↔ v.FirstGeneration := by
  have hone : Nat.toDigits 10 1 = ['1'] := rfl
  rw [isLegacy_iff_major, major_eq_ok_iff, hone]
  unfold FirstGeneration
  constructor
  · rintro ⟨-, -, suffix, _ | @⟨stage, nonempty, plain⟩, htext⟩
    · exact .inl (String.toList_inj.1 htext)
    · refine .inr ⟨stage, nonempty, plain, ?_⟩
      rw [← String.toList_inj, htext]
      simp
  · rintro (htext | ⟨stage, nonempty, plain, htext⟩)
    · exact ⟨by omega, by decide, [], .absent, by simp [htext]⟩
    · exact ⟨by omega, by decide, '-' :: stage, .staged nonempty plain, by simp [htext]⟩

end ProjectVersion

/-! ## Documents without a version -/

/-- Whether a document has no field for the version, or no fields at all. -/
def Yaml.Document.Versionless (doc : Yaml.Document) : Prop :=
  ∀ root, doc.root = some root → ∀ fields left,
    (doc.fields root).run doc.allowance = some (fields, left) → "version" ∉ fields.map Prod.fst

/-- Whether the file of a project carries no version. -/
def ConfigFile.CarriesNoVersion (d : Directory) (root : String) : Prop :=
  ∃ text doc, d.read (path root) = .ok text ∧ Yaml.Document.parse? text = some doc ∧ doc.Versionless

namespace Config

open Yaml (Access Document Node)

/-- A field that is not given has its default. -/
theorem readField_of_notMem {α : Type} {fields : List (String × Node)} {name : String}
    (h : name ∉ fields.map Prod.fst) (default : α) (read : Node → Access α) :
    readField fields name (some default) read = pure default := by
  have hnone : fieldsNamed name fields = [] := by
    unfold fieldsNamed
    rw [List.map_eq_nil_iff, List.filter_eq_nil_iff]
    intro f hf hname
    apply h
    rw [← of_decide_eq_true hname]
    exact List.mem_map_of_mem hf
  unfold readField
  rw [hnone]
  rfl

/-- Fields without a version have the version of a document that does not say. -/
theorem version_of_ofFields {d : Document} {fields : List (String × Node)} {c : Config}
    {allowed left : Nat} (versionless : "version" ∉ fields.map Prod.fst)
    (h : (ofFields d fields).run allowed = some (c, left)) : c.version = .unversioned := by
  unfold ofFields at h
  rw [readField_of_notMem versionless, pure_bind] at h
  simp only [StateT.run_bind, Option.bind_eq_bind, Option.bind_eq_some_iff, Prod.exists] at h
  obtain ⟨domain, _, -, repo, _, -, layout, _, -, resources, _, -, h⟩ := h
  cases h
  rfl

/-- **A document without a version is of the first generation.** -/
theorem version_of_versionless {d : Document} {c : Config} (versionless : d.Versionless)
    (h : ofDocument? d = some c) : c.version = .unversioned := by
  unfold ofDocument? at h
  obtain ⟨⟨c', left⟩, hrun, rfl⟩ := Option.map_eq_some_iff.1 h
  unfold ofRoot at hrun
  rcases hroot : d.root with _ | root
  · rw [hroot] at hrun
    exact version_of_ofFields (by simp) hrun
  · rw [hroot] at hrun
    obtain ⟨⟨fields, left'⟩, hfields, hrun⟩ := Option.bind_eq_some_iff.1 hrun
    exact version_of_ofFields (versionless root hroot fields left' hfields) hrun

end Config

/-- A project file without a version loads with the version of a document that does not say. -/
theorem ConfigFile.version_of_carriesNoVersion {d : Directory} {root : String} {c : Config}
    (loaded : load d root = .ok (some c)) (h : CarriesNoVersion d root) :
    c.version = .unversioned := by
  obtain ⟨text, doc, hread, hparse, versionless⟩ := h
  unfold load at loaded
  rw [hread] at loaded
  unfold Config.parse? at loaded
  simp only [hparse, Option.bind_eq_bind, Option.bind_some] at loaded
  rcases hdoc : Config.ofDocument? doc with _ | c'
  · simp [hdoc] at loaded
  · obtain rfl : c' = c := by simpa [hdoc] using loaded
    exact Config.version_of_versionless versionless hdoc

/-! ## First looks that differ in the version -/

namespace Prescan

/-- Whether two first looks agree on all but the version that is asked for. -/
structure AlikeButVersion (p p' : Prescan) : Prop where
  /-- The key is the same. -/
  rawKey : p.rawKey = p'.rawKey
  /-- Help is asked for in both or in neither. -/
  help : p.help = p'.help
  /-- A flag is not written as it has to be in both or in neither. -/
  malformed : p.malformed = p'.malformed
  /-- A version is asked for in both or in neither. -/
  versionSet : p.versionSet = p'.versionSet

namespace AlikeButVersion

variable {p p' : Prescan}

/-- A first look is alike to itself. -/
theorem refl (p : Prescan) : AlikeButVersion p p := ⟨rfl, rfl, rfl, rfl⟩

/-- They agree when each is asked for a version. -/
theorem ofVersions (p : Prescan) (v v' : String) :
    AlikeButVersion (p.step (.valued .projectVersion (some v)))
      (p.step (.valued .projectVersion (some v'))) :=
  ⟨rfl, rfl, rfl, rfl⟩

/-- Whatever comes next adds the same to both. -/
theorem step (h : AlikeButVersion p p') (item : PrescanItem) :
    AlikeButVersion (p.step item) (p'.step item) := by
  cases item with
  | valued flag value =>
    cases value with
    | none => cases flag <;> exact ⟨h.rawKey, h.help, rfl, h.versionSet⟩
    | some v =>
      cases flag with
      | projectVersion => exact ⟨h.rawKey, h.help, h.malformed, rfl⟩
      | plugins => exact ⟨rfl, h.help, h.malformed, h.versionSet⟩
  | help wanted => exact ⟨h.rawKey, rfl, h.malformed, h.versionSet⟩
  | oddHelp => exact ⟨h.rawKey, h.help, rfl, h.versionSet⟩
  | other => exact h

/-- **Looks that are alike stay so,** whatever comes. -/
theorem afterItems (h : AlikeButVersion p p') (ws : List String) :
    AlikeButVersion (p.afterItems ws) (p'.afterItems ws) := by
  unfold Prescan.afterItems
  induction items ws generalizing p p' with
  | nil => exact h
  | cons it its ih =>
    rw [List.foldl_cons, List.foldl_cons]
    exact ih (h.step _)

/-- Looks that are alike have the same key. -/
theorem key_eq (h : AlikeButVersion p p') : p.key = p'.key := congrArg Text.trim h.rawKey

/-- Looks that are alike agree on whether general help is asked for. -/
theorem genericHelp_eq (h : AlikeButVersion p p') : p.genericHelp = p'.genericHelp := by
  unfold genericHelp
  rw [h.malformed, h.help, h.versionSet]

end AlikeButVersion

/-- **Another version changes nothing else.** -/
theorem alike_of_separate {front : List RawText} (h : ¬ Awaits (front.map RawText.lossy))
    (program : RawText) {flag : RawText} (hflag : flag.lossy = ValueFlag.projectVersion.bare)
    (v v' : RawText) (back : List RawText) :
    AlikeButVersion (scan (program :: (front ++ flag :: v :: back)))
      (scan (program :: (front ++ flag :: v' :: back))) := by
  rcases scan_append h program with ⟨p, goesOn⟩ | ⟨p, ended⟩
  · rw [goesOn, goesOn]
    simp only [List.map_cons, hflag, afterItems_separate]
    exact (AlikeButVersion.ofVersions p _ _).afterItems _
  · rw [ended, ended]
    exact .refl p

/-- **Another value of the version flag,** behind its equals sign, changes nothing but the version. -/
theorem alike_of_inline {front : List RawText} (h : ¬ Awaits (front.map RawText.lossy))
    (program : RawText) {a a' : RawText} {v v' : String}
    (ha : a.lossy = ValueFlag.projectVersion.bare ++ "=" ++ v)
    (ha' : a'.lossy = ValueFlag.projectVersion.bare ++ "=" ++ v') (back : List RawText) :
    AlikeButVersion (scan (program :: (front ++ a :: back)))
      (scan (program :: (front ++ a' :: back))) := by
  rcases scan_append h program with ⟨p, goesOn⟩ | ⟨p, ended⟩
  · rw [goesOn, goesOn]
    simp only [List.map_cons, ha, ha', afterItems_inline]
    exact (AlikeButVersion.ofVersions p v v').afterItems _
  · rw [ended, ended]
    exact .refl p

end Prescan

/-! ## Starts -/

/-- Whether two runs start alike: both fail with the same error, or both start with the same request, the
same plugins and the same commands, and print the same. Only the arguments that are still to be matched may
differ. -/
inductive StartsAlike :
    Except BootstrapError Session → Except BootstrapError Session → Prop where
  /-- Both fail. -/
  | failed (e : BootstrapError) : StartsAlike (.error e) (.error e)
  /-- Both start. -/
  | started {s s' : Session} (commandName : s.commandName = s'.commandName)
      (projectDir : s.projectDir = s'.projectDir) (request : s.request = s'.request)
      (selection : s.selection = s'.selection) (tree : s.tree = s'.tree)
      (notices : s.notices = s'.notices) : StartsAlike (.ok s) (.ok s')

namespace Host

variable {h : Host} {d : Directory} {c : Config}

/-- **In a project nobody asks for the version.** -/
theorem bootstrap_startsAlike (loaded : ConfigFile.load d h.projectDir = .ok (some c))
    {argv argv' : List RawText} (alike : (Prescan.scan argv).AlikeButVersion (Prescan.scan argv')) :
    StartsAlike (h.bootstrap d argv) (h.bootstrap d argv') := by
  have hrequest : h.request d (Prescan.scan argv) = h.request d (Prescan.scan argv') := by
    unfold request
    rw [loaded, alike.key_eq]
  have hselection : ∀ r q, selection r q (Prescan.scan argv) = selection r q (Prescan.scan argv') := by
    intro r q
    unfold selection
    rw [alike.genericHelp_eq]
  unfold bootstrap
  simp only [hrequest, hselection, bind, Except.bind]
  rcases h.registry with e | r
  · exact .failed e
  rcases h.request d (Prescan.scan argv') with e | q
  · exact .failed e
  rcases hsel : selection r q (Prescan.scan argv') with e | s
  · simp only [hsel]
    exact .failed e
  simp only [hsel]
  rcases h.tree r s with e | t
  · exact .failed e
  · exact .started rfl rfl rfl rfl rfl rfl

/-- What a run of a host whose plugins can be registered does where the project is of the first
generation. -/
theorem bootstrap_of_legacy (loaded : ConfigFile.load d h.projectDir = .ok (some c))
    (legacy : c.isLegacy = true) {r : Registry} (registered : h.registry = .ok r)
    (argv : List RawText) : h.bootstrap d argv = .error (.legacyProject c.version) := by
  have hrequest : h.request d (Prescan.scan argv) = .error (.legacyProject c.version) := by
    unfold request
    rw [loaded]
    simp [legacy]
  unfold bootstrap
  simp only [registered, hrequest, bind, Except.bind]

/-- Only a project of the first generation is refused for that. -/
theorem of_bootstrap_eq_legacyProject (loaded : ConfigFile.load d h.projectDir = .ok (some c))
    {argv : List RawText} {v : ProjectVersion}
    (refused : h.bootstrap d argv = .error (.legacyProject v)) : v = c.version ∧ c.isLegacy = true := by
  rcases bind_eq_error.1 refused with hregistry | ⟨r, -, refused⟩
  · unfold registry at hregistry
    split at hregistry
    · cases hregistry
    · split at hregistry
      · cases hregistry
      · cases hregistry
  rcases bind_eq_error.1 refused with hrequest | ⟨q, -, refused⟩
  · unfold request at hrequest
    rw [loaded] at hrequest
    by_cases legacy : c.isLegacy = true
    · simp only [legacy, ↓reduceIte, Except.error.injEq, BootstrapError.legacyProject.injEq] at hrequest
      exact ⟨hrequest.symm, legacy⟩
    · simp [legacy] at hrequest
  -- with a request in hand a run fails for another reason
  rcases bind_eq_error.1 refused with hselection | ⟨s, -, refused⟩
  · unfold selection at hselection
    split_ifs at hselection
    split at hselection
    · cases hselection
    · split at hselection
      · cases hselection
      · cases hselection
  rcases bind_eq_error.1 refused with htree | ⟨t, -, refused⟩
  · unfold tree at htree
    split at htree
    · cases htree
    · cases htree
  · cases refused

/-! ## Main result -/

/-- **The version flag has no influence inside a project,** for every host, every directory whose project
file loads, and every argument list.

1. Let an argument be `--project-version` with a value behind the equals sign, where no earlier flag waits
   for its value. With any other value there the run starts alike: with the same error, or with the same
   request, plugins, commands and notices.
2. So it does with any other argument behind a `--project-version` that takes it.
3. If the version of the project is of the first generation, or the file carries none, every run is
   refused for that, help and malformed flags or not, once the default version is one and all plugins are
   registered.
4. No other project is refused for that. -/
theorem version_flag_in_project (loaded : ConfigFile.load d h.projectDir = .ok (some c)) :
    (∀ (program : RawText) (front back : List RawText) (a a' : RawText) (v v' : String),
      ¬ Prescan.Awaits (front.map RawText.lossy) →
      a.lossy = ValueFlag.projectVersion.bare ++ "=" ++ v →
      a'.lossy = ValueFlag.projectVersion.bare ++ "=" ++ v' →
        StartsAlike (h.bootstrap d (program :: (front ++ a :: back)))
          (h.bootstrap d (program :: (front ++ a' :: back)))) ∧
    (∀ (program : RawText) (front back : List RawText) (flag v v' : RawText),
      ¬ Prescan.Awaits (front.map RawText.lossy) →
      flag.lossy = ValueFlag.projectVersion.bare →
        StartsAlike (h.bootstrap d (program :: (front ++ flag :: v :: back)))
          (h.bootstrap d (program :: (front ++ flag :: v' :: back)))) ∧
    (c.version.FirstGeneration ∨ ConfigFile.CarriesNoVersion d h.projectDir →
      h.defaultVersion.fault? = none → (∃ r, Registry.registerAll {} h.batches = .ok r) →
        ∀ argv, h.bootstrap d argv = .error (.legacyProject c.version)) ∧
    ∀ argv v, h.bootstrap d argv = .error (.legacyProject v) →
      v = c.version ∧ c.version.FirstGeneration := by
  refine ⟨?_, ?_, ?_, ?_⟩
  · intro program front back a a' v v' notAwaiting ha ha'
    exact bootstrap_startsAlike loaded (Prescan.alike_of_inline notAwaiting program ha ha' back)
  · intro program front back flag v v' notAwaiting hflag
    exact bootstrap_startsAlike loaded (Prescan.alike_of_separate notAwaiting program hflag v v' back)
  · rintro hold hdefault ⟨r, hregister⟩ argv
    have legacy : c.isLegacy = true := by
      apply ProjectVersion.isLegacy_iff.2
      rcases hold with first | unversioned
      · exact first
      · rw [ConfigFile.version_of_carriesNoVersion loaded unversioned]
        exact .inl rfl
    have registered : h.registry = .ok r := by
      unfold registry
      simp only [hdefault, hregister]
    exact bootstrap_of_legacy loaded legacy registered argv
  · intro argv v refused
    obtain ⟨rfl, legacy⟩ := of_bootstrap_eq_legacyProject loaded refused
    exact ⟨rfl, ProjectVersion.isLegacy_iff.1 legacy⟩

/-- A directory with a project of the second generation. -/
def currentDirectory : Directory where
  children := [("PROJECT", .text (Config.render { version := ⟨"2"⟩, domain := "example.com" }))]

/-- The fields of a project file that carries no version. -/
def oldFields : List (String × Yaml.Value) := [("domain", .text "example.com")]

/-- A directory with such a file. -/
def oldDirectory : Directory where
  children := [("PROJECT", .text (Yaml.Value.record oldFields).render)]

/-- In a project of the second generation the word `--help` can stand for the version without being seen
as a flag. In a project without a version not even general help starts. -/
theorem version_flag_in_project_taken_help :
    StartsAlike
        (Program.host.bootstrap currentDirectory
          (["scaffold", "--project-version", "3-alpha", "create"].map RawText.ofString))
        (Program.host.bootstrap currentDirectory
          (["scaffold", "--project-version", "--help", "create"].map RawText.ofString)) ∧
      Program.host.bootstrap oldDirectory (["scaffold", "--help"].map RawText.ofString) =
        .error (.legacyProject ⟨"1"⟩) := by
  constructor
  · have loaded : ConfigFile.load currentDirectory Program.host.projectDir =
        .ok (some { version := ⟨"2"⟩, domain := "example.com" }) := by
      have hread : currentDirectory.read (ConfigFile.path Program.host.projectDir) =
          .ok (Config.render { version := ⟨"2"⟩, domain := "example.com" }) := rfl
      unfold ConfigFile.load
      rw [hread]
      simp only [Config.parse?_render]
    have notAwaiting : ¬ Prescan.Awaits (([] : List RawText).map RawText.lossy) := by
      rintro ⟨flag, hlast⟩
      cases hlast
    exact (version_flag_in_project loaded).2.1 (.ofString "scaffold") [] [.ofString "create"]
      (.ofString "--project-version") (.ofString "3-alpha") (.ofString "--help") notAwaiting (by decide)
  · have proper : (Yaml.Value.record oldFields).Proper :=
      (Yaml.Value.ProperFields.cons (by decide) (.text "example.com") .nil).record (by decide)
    have hread : oldDirectory.read (ConfigFile.path Program.host.projectDir) =
        .ok (Yaml.Value.record oldFields).render := rfl
    have hparse := Yaml.Document.parse?_render proper
    have loaded : ConfigFile.load oldDirectory Program.host.projectDir =
        .ok (some { version := ⟨"1"⟩, domain := "example.com" }) := by
      have hroot : Config.ofRoot ⟨some (Yaml.Value.record oldFields).node, []⟩ =
          pure { version := ⟨"1"⟩, domain := "example.com" } := by
        show (Yaml.Document.fields _ (Yaml.Value.record oldFields).node >>= Config.ofFields _) = _
        rw [fields_node, pure_bind]
        rfl
      unfold ConfigFile.load Config.parse? Config.ofDocument?
      simp only [hread, hparse, Option.bind_eq_bind, Option.bind_some, hroot]
      rfl
    have unversioned : ConfigFile.CarriesNoVersion oldDirectory Program.host.projectDir := by
      refine ⟨_, _, hread, hparse, ?_⟩
      intro root hroot fields left hrun
      obtain rfl := Option.some.inj hroot
      rw [fields_node] at hrun
      obtain ⟨rfl, rfl⟩ := Prod.mk.inj (Option.some.inj hrun)
      decide
    exact (version_flag_in_project loaded).2.2.1 (.inr unversioned) (by decide) ⟨_, rfl⟩ _

end Host

end Scaffolder
