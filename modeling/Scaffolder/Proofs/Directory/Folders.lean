import Scaffolder.Proofs.Directory
import Scaffolder.Proofs.Directory.Path

/-!
# What making folders leaves alone

Making a folder makes the folders on the way to it, one after another, and those stay when a later one
is refused. Whatever there was is there still (`keeps_makeFolders`), but a path may lead to more than it
did. What a name in the folder leads to is the same (`Reaches.look_makeFolders`), unless the path goes up
by two dots behind a name that does not exist: then the folder that is made under the name can be what
the path leads to in the end.

* **Directories that keep what there is** (`Keeps`). A file that is put where nothing was found is a case
  (`keeps_write`).
* **Making folders** (`makeFolders_induction`): what holds of every folder that is made on the way holds of
  them together. Nothing appears under a name that is not on the path (`find?_makeFolders_of_notMem`).
* **Walks that only lead down** (`walk_down_iff`) lead to the place with the names that are walked. So does
  what comes behind the last two dots of a path.
-/

namespace Scaffolder.Directory

variable {d d' : Directory}

/-! ## Directories that keep what there is -/

/-- Whether the second directory has what the first one has: every folder is one still, and every file is
as it was. There may be more. -/
structure Keeps (d d' : Directory) : Prop extends KeepsFolders d d' where
  /-- A file stays as it is. -/
  file : ∀ place e, e.isFolder = false → d.find? place = some e → d'.find? place = some e

/-- A directory has what it has. -/
theorem Keeps.refl (d : Directory) : Keeps d d where
  here := rfl
  folderAt := fun _ h => h
  file := fun _ _ _ h => h

/-- What is kept twice is kept. -/
theorem Keeps.trans {d'' : Directory} (h : Keeps d d') (h' : Keeps d' d'') : Keeps d d'' where
  toKeepsFolders := h.toKeepsFolders.trans h'.toKeepsFolders
  file := fun place e hfile hfind => h'.file place e hfile (h.file place e hfile hfind)

/-- **What is put where nothing stood** leaves alone what there is, if it is put in a folder. -/
theorem keeps_insert {folder : Place} {name : String} (inside : d.FolderAt folder)
    (nothing : d.find? (folder ++ [name]) = none) (new : Entry) :
    Keeps d (d.insert (folder ++ [name]) new) := by
  refine { keepsFolders_insert new (not_folderAt_of_nothing nothing) with
    file := fun other e hfile hfind => ?_ }
  have hnot : ¬ d.FolderAt other := by
    unfold FolderAt
    rw [hfind, Option.any_some, hfile]
    exact Bool.false_ne_true
  rw [find?_insert_of_apart d new ?_ ?_]
  · exact hfind
  · -- What leads to the new thing is a folder, or was nothing.
    intro above
    rcases List.prefix_concat_iff.1 above with rfl | habove
    · rw [nothing] at hfind
      cases hfind
    · exact hnot (inside.above habove)
  · rintro ⟨rest, rfl⟩
    rw [find?_append, nothing] at hfind
    cases hfind

/-- The names of a path but the last lead to a folder. -/
theorem folderAt_of_folderOf {path : String} {folder : Place} (h : d.folderOf path = .ok folder) :
    d.FolderAt folder := by
  rw [← map_folderOf] at h
  obtain ⟨f, _, rfl⟩ := map_place_eq_ok.1 h
  exact f.folderAt

/-- What a path names is a folder, or a name in one. -/
theorem resolve_cases {path : String} {place : Place} (h : d.resolve path = .ok place) :
    d.FolderAt place ∨ ∃ folder name, place = folder ++ [name] ∧ d.FolderAt folder := by
  obtain ⟨_, folder, hfolder, _, rfl⟩ := resolve_eq_ok_iff.1 h
  have inside := folderAt_of_folderOf hfolder
  cases Path.last? path with
  | none =>
    left
    rw [Option.toList_none, List.append_nil]
    exact inside
  | some name => exact .inr ⟨folder, name, rfl, inside⟩

/-- What is put where a path leads to nothing leaves alone what there is. -/
theorem keeps_insert_of_resolve {path : String} {place : Place} (h : d.resolve path = .ok place)
    (nothing : d.find? place = none) (new : Entry) : Keeps d (d.insert place new) := by
  rcases resolve_cases h with hfolder | ⟨folder, name, rfl, hfolder⟩
  · exact absurd hfolder (not_folderAt_of_nothing nothing)
  · exact keeps_insert hfolder nothing new

/-- **A file that is written where nothing is found** leaves alone what there is. -/
theorem keeps_write {path content : String} (nothing : d.look path = none)
    (h : d.write path content = .ok d') : Keeps d d' := by
  obtain ⟨place, hresolve, _, hslash, _, rfl⟩ := putFile_eq_ok_iff.1 h
  refine keeps_insert_of_resolve hresolve ?_ _
  rw [Option.eq_none_iff_forall_not_mem]
  intro e he
  have hlook : d.look path = some e := by
    refine look_eq_some_iff.2 (entryAt_eq_ok_iff.2 ⟨place, hresolve, he, ?_⟩)
    rw [hslash]
    rfl
  rw [nothing] at hlook
  cases hlook

/-! ## Making folders -/

/-- **When a folder is made:** its path leads to nothing, and an empty folder is put there. -/
theorem makeFolder_eq_ok {path : String} (h : d.makeFolder path = .ok d') :
    ∃ place, d.resolve path = .ok place ∧ d.find? place = none ∧ d' = d.insert place (.folder []) := by
  unfold makeFolder at h
  obtain ⟨place, hresolve, h⟩ := bind_eq_ok.1 h
  refine ⟨place, hresolve, ?_⟩
  cases hfind : d.find? place with
  | some e =>
    rw [hfind] at h
    cases h
  | none =>
    rw [hfind] at h
    unfold put at h
    dsimp only at h
    split at h
    · cases h
    · exact ⟨rfl, (Except.ok.inj h).symm⟩

section

-- what holds of directories as folders are made in them
variable {P : Directory → Prop}

/-- A folder that is there already need not be made. -/
theorem ensureFolder_induction {path : String} (start : P d)
    (step : ∀ d', d.makeFolder path = .ok d' → P d') (h : d.ensureFolder path = .ok d') : P d' := by
  unfold ensureFolder at h
  split at h
  · split_ifs at h
    obtain rfl := Except.ok.inj h
    exact start
  · exact step d' h

/-- Of the folders that are tried, the longest first, only those may have been made that lead to the
directory, and the others are given back. -/
theorem ensureFirst_induction {missing missing' paths : List String} (start : P d)
    (step : ∀ path ∈ paths, ∀ d₁ d₂, P d₁ → d₁.makeFolder path = .ok d₂ → P d₂)
    (h : d.ensureFirst missing paths = .ok (d', missing')) :
    P d' ∧ ∀ path ∈ missing', path ∈ missing ++ paths := by
  induction paths generalizing missing with
  | nil =>
    obtain ⟨rfl, rfl⟩ := Prod.mk.inj (Except.ok.inj h)
    exact ⟨start, fun _ hp => List.mem_append_left _ hp⟩
  | cons path paths ih =>
    unfold ensureFirst at h
    split at h
    · next d₁ hensure =>
      obtain ⟨rfl, rfl⟩ := Prod.mk.inj (Except.ok.inj h)
      refine ⟨?_, fun _ hp => List.mem_append_left _ hp⟩
      exact ensureFolder_induction start (fun d₂ => step path List.mem_cons_self d d₂ start) hensure
    · obtain ⟨hd', hmissing⟩ := ih (fun p hp => step p (List.mem_cons_of_mem _ hp)) h
      refine ⟨hd', fun p hp => ?_⟩
      have hmem := hmissing p hp
      simp only [List.mem_append, List.mem_cons] at hmem ⊢
      rcases hmem with (rfl | hmem) | hmem
      · exact .inr (.inl rfl)
      · exact .inl hmem
      · exact .inr (.inr hmem)
    · cases h

/-- What every folder that is made keeps is kept by all, up to the one that is refused. -/
theorem ensureEach_induction {paths : List String} (start : P d)
    (step : ∀ path ∈ paths, ∀ d₁ d₂, P d₁ → d₁.makeFolder path = .ok d₂ → P d₂) :
    P (d.ensureEach paths).2 := by
  induction paths generalizing d with
  | nil => exact start
  | cons path paths ih =>
    unfold ensureEach
    split
    · next d₁ hensure =>
      apply ih
      · exact ensureFolder_induction start (fun d₂ => step path List.mem_cons_self d d₂ start) hensure
      · exact fun p hp => step p (List.mem_cons_of_mem _ hp)
    · exact start

/-- **Making folders is making one after another.** What holds at first and is kept by every folder that
is made on the way holds in the end, whatever is refused. -/
theorem makeFolders_induction {path : String} (start : P d)
    (step : ∀ outer ∈ Path.ancestors path, ∀ d₁ d₂, P d₁ → d₁.makeFolder outer = .ok d₂ → P d₂) :
    P (d.makeFolders path).2 := by
  unfold makeFolders
  split
  · exact start
  · next d₁ missing hfirst =>
    obtain ⟨hd₁, hmissing⟩ := ensureFirst_induction start step hfirst
    exact ensureEach_induction hd₁ fun p hp => step p (by simpa using hmissing p hp)

end

/-- A folder that is made leaves alone what there is. -/
theorem keeps_makeFolder {path : String} (h : d.makeFolder path = .ok d') : Keeps d d' := by
  obtain ⟨place, hresolve, hnothing, rfl⟩ := makeFolder_eq_ok h
  exact keeps_insert_of_resolve hresolve hnothing _

/-- **Where a folder is made:** in the folder that all names of its path but the last lead to, and under the
last. A path that ends with two dots, or one, leads to what is there already. -/
theorem exists_of_makeFolder {path : String} (h : d.makeFolder path = .ok d') :
    ∃ start folder name, d.startAt path = .ok start ∧
      d.walk start (Path.folders path) = .ok folder ∧ Path.last? path = some name ∧
      checkName name = .ok () ∧ d.FolderAt folder ∧ d.find? (folder ++ [name]) = none ∧
      d' = d.insert (folder ++ [name]) (.folder []) := by
  obtain ⟨place, hresolve, hnothing, rfl⟩ := makeFolder_eq_ok h
  obtain ⟨_, folder, hfolder, hname, rfl⟩ := resolve_eq_ok_iff.1 hresolve
  have inside := folderAt_of_folderOf hfolder
  cases hlast : Path.last? path with
  | some name =>
    obtain ⟨start, hstart, hwalk⟩ := bind_eq_ok.1 hfolder
    rw [hlast, Option.toList_some] at hnothing
    exact ⟨start, folder, name, hstart, hwalk, rfl, hname name hlast, inside, hnothing, rfl⟩
  | none =>
    rw [hlast, Option.toList_none, List.append_nil] at hnothing
    exact absurd inside (not_folderAt_of_nothing hnothing)

/-- **The working directory is never made.** -/
theorem makeFolders_here (d : Directory) : (d.makeFolders ".").2 = d := by
  apply makeFolders_induction (P := fun d' => d' = d) rfl
  rintro outer hmem d₁ d₂ rfl hmake
  obtain rfl := List.mem_singleton.1 (show outer ∈ ["."] from hmem)
  obtain ⟨_, _, name, _, _, hlast, _⟩ := exists_of_makeFolder hmake
  cases hlast

/-- **Making folders leaves alone what there is.** -/
theorem keeps_makeFolders (d : Directory) (path : String) : Keeps d (d.makeFolders path).2 :=
  makeFolders_induction (.refl d) fun _ _ _ _ keeps h => keeps.trans (keeps_makeFolder h)

/-- **Nothing appears under a name that the path of a new folder has not.** -/
theorem find?_makeFolder_of_notMem {path : String} (h : d.makeFolder path = .ok d') {folder : Place}
    {name : String} (notMem : name ∉ Path.steps path) (nothing : d.find? (folder ++ [name]) = none) :
    d'.find? (folder ++ [name]) = none := by
  obtain ⟨_, outer, new, _, _, hlast, _, inside, _, rfl⟩ := exists_of_makeFolder h
  have hne : name ≠ new := by
    rintro rfl
    rw [Path.steps_eq, hlast] at notMem
    exact notMem (List.mem_append_right _ (List.mem_singleton_self _))
  by_cases below : outer ++ [new] <+: folder ++ [name]
  · obtain ⟨rest, hrest⟩ := below
    have hself := d.find?_insert_self (.folder []) (List.append_ne_nil_of_right_ne_nil outer
      (List.cons_ne_nil new []))
    rw [← hrest, find?_append, hself]
    cases rest with
    | nil =>
      rw [List.append_nil] at hrest
      exact absurd (List.cons.inj (List.append_inj' hrest rfl).2).1.symm hne
    | cons first rest => rfl
  · rw [find?_insert_of_apart d _ ?_ below]
    · exact nothing
    · intro above
      rcases List.prefix_concat_iff.1 above with heq | habove
      · exact absurd (List.cons.inj (List.append_inj' heq rfl).2).1 hne
      · exact not_folderAt_of_nothing nothing (inside.above habove)

/-- **Nothing appears under a name that the path of new folders has not.** -/
theorem find?_makeFolders_of_notMem {path : String} {folder : Place} {name : String}
    (notMem : name ∉ Path.steps path) (nothing : d.find? (folder ++ [name]) = none) :
    (d.makeFolders path).2.find? (folder ++ [name]) = none := by
  refine makeFolders_induction (P := fun d' => d'.find? (folder ++ [name]) = none) nothing ?_
  intro outer hmem d₁ d₂ hnothing hmake
  apply find?_makeFolder_of_notMem hmake _ hnothing
  intro hname
  exact notMem ((Path.steps_prefix_of_mem_ancestors hmem).subset hname)

/-! ## Walks that only lead down -/

/-- A walk leads to a folder. -/
theorem folderAt_of_walk {place next : Place} {names : List String} (inside : d.FolderAt place)
    (h : d.walk place names = .ok next) : d.FolderAt next := by
  induction names generalizing place with
  | nil =>
    obtain rfl := Except.ok.inj h
    exact inside
  | cons name names ih =>
    rw [walk_cons] at h
    obtain ⟨first, hstep, hrest⟩ := bind_eq_ok.1 h
    rcases stepAt_eq_ok_iff.1 hstep with ⟨_, rfl⟩ | ⟨_, rfl⟩ | ⟨_, _, hfolder, rfl⟩
    · exact ih inside hrest
    · exact ih inside.dropLast hrest
    · exact ih hfolder hrest

/-- A path starts in a folder. -/
theorem folderAt_of_startAt {path : String} {place : Place} (h : d.startAt path = .ok place) :
    d.FolderAt place := by
  unfold startAt at h
  split_ifs at h with habsolute hhere
  · obtain rfl := Except.ok.inj h
    exact folderAt_nil d
  · obtain rfl := Except.ok.inj h
    exact hhere

/-- **Where a walk without two dots leads:** to the place with its names, if they are names and lead to a
folder. -/
theorem walk_down_iff {place next : Place} {names : List String} (nodots : ".." ∉ names)
    (inside : d.FolderAt place) :
    d.walk place names = .ok next ↔
      next = place ++ names.filter (· ≠ ".") ∧
        (∀ name ∈ names, name ≠ "." → checkName name = .ok ()) ∧ d.FolderAt next := by
  induction names generalizing place with
  | nil =>
    rw [walk_nil, List.filter_nil, List.append_nil, Except.ok.injEq]
    constructor
    · rintro rfl
      exact ⟨rfl, List.forall_mem_nil _, inside⟩
    · rintro ⟨rfl, _⟩
      rfl
  | cons name names ih =>
    have nodots' : ".." ∉ names := fun hmem => nodots (List.mem_cons_of_mem _ hmem)
    have hdots : name ≠ ".." := fun heq => nodots (heq ▸ List.mem_cons_self)
    rw [walk_cons, bind_eq_ok]
    simp only [List.forall_mem_cons]
    by_cases hdot : name = "."
    · subst hdot
      have hstep : d.stepAt place "." = .ok place := rfl
      rw [hstep, List.filter_cons_of_neg (by simp)]
      simpa using ih nodots' inside
    · rw [List.filter_cons_of_pos (by simpa using hdot)]
      have hsplit : ∀ rest : Place, place ++ name :: rest = place ++ [name] ++ rest := by
        intro rest
        rw [List.append_assoc, List.singleton_append]
      have hrelative : Path.isRelative name = false := by simp [Path.isRelative, hdot, hdots]
      rw [hsplit]
      constructor
      · rintro ⟨first, hstep, hrest⟩
        rcases stepAt_eq_ok_iff.1 hstep with ⟨heq, _⟩ | ⟨heq, _⟩ | ⟨_, hname, hfolder, rfl⟩
        · exact absurd heq hdot
        · exact absurd heq hdots
        · obtain ⟨hnext, hnames, hinside⟩ := (ih nodots' hfolder).1 hrest
          exact ⟨hnext, ⟨fun _ => hname, hnames⟩, hinside⟩
      · rintro ⟨rfl, ⟨hname, hnames⟩, hinside⟩
        have hfolder : d.FolderAt (place ++ [name]) := hinside.above (List.prefix_append _ _)
        refine ⟨place ++ [name], ?_, (ih nodots' hfolder).2 ⟨rfl, hnames, hinside⟩⟩
        exact stepAt_eq_ok_iff.2 (.inr (.inr ⟨hrelative, hname hdot, hfolder, rfl⟩))

/-- A path that names a folder leads there by all its names. -/
theorem walk_steps_of_resolve {path : String} {place : Place} (h : d.resolve path = .ok place)
    (hfolder : d.FolderAt place) :
    ∃ start, d.startAt path = .ok start ∧ d.walk start (Path.steps path) = .ok place := by
  obtain ⟨_, folder, hwalk, hname, rfl⟩ := resolve_eq_ok_iff.1 h
  obtain ⟨start, hstart, hwalk⟩ := bind_eq_ok.1 hwalk
  refine ⟨start, hstart, ?_⟩
  rw [Path.steps_eq, walk_append, bind_eq_ok]
  refine ⟨folder, hwalk, ?_⟩
  cases hlast : Path.last? path with
  | none => simp
  | some name =>
    rw [hlast] at hfolder hname
    rw [Option.toList_some, walk_cons]
    refine bind_eq_ok.2 ⟨folder ++ [name], ?_, rfl⟩
    exact stepAt_eq_ok_iff.2
      (.inr (.inr ⟨Path.not_isRelative_of_last? hlast, hname name rfl, hfolder, rfl⟩))

/-- **Once a folder is made,** all names of its path lead to it. -/
theorem walk_steps_of_makeFolder {path : String} (h : d.makeFolder path = .ok d') :
    ∃ start place, d'.startAt path = .ok start ∧ d'.walk start (Path.steps path) = .ok place ∧
      d.find? place = none ∧ d'.find? place = some (.folder []) := by
  have keeps := (keeps_makeFolder h).toKeepsFolders
  obtain ⟨place, hresolve, hnothing, rfl⟩ := makeFolder_eq_ok h
  have hne : place ≠ [] := by
    rintro rfl
    cases hnothing
  have hnew := d.find?_insert_self (.folder []) hne
  obtain ⟨start, hstart, hwalk⟩ :=
    walk_steps_of_resolve (resolve_of_keepsFolders keeps hresolve) (folderAt_iff.2 ⟨[], hnew⟩)
  exact ⟨start, place, hstart, hwalk, hnothing, hnew⟩

/-! ## Paths with two dots -/

/-- Whether no two dots on a path come behind a name that does not exist. -/
def Reaches (d : Directory) (path : String) : Prop :=
  ∀ start front back, d.start path = .ok start → Path.steps path = front ++ ".." :: back →
    front.foldlM d.step start ≠ .error .notFound

/-- A walk fails where it fails, told by places. -/
theorem foldlM_eq_error_iff {f : d.Folder} {names : List String} {cause : OsError} :
    names.foldlM d.step f = .error cause ↔ d.walk f.place names = .error cause := by
  rw [← map_walk]
  cases names.foldlM d.step f with
  | error cause' => simp [Except.map]
  | ok f' => simp [Except.map]

/-- Where no two dots come behind a missing name, told by places. -/
theorem reaches_iff {path : String} :
    d.Reaches path ↔ ∀ start front back, d.startAt path = .ok start →
      Path.steps path = front ++ ".." :: back → d.walk start front ≠ .error .notFound := by
  unfold Reaches
  simp only [← map_start, map_place_eq_ok, ne_eq, foldlM_eq_error_iff]
  constructor
  · rintro h _ front back ⟨f, hf, rfl⟩
    exact h f front back hf
  · intro h f front back hf
    exact h f.place front back ⟨f, hf, rfl⟩

/-- A path without two dots has none behind a missing name. -/
theorem reaches_of_notMem {path : String} (nodots : ".." ∉ Path.steps path) : d.Reaches path := by
  intro start front back _ hsteps
  rw [hsteps] at nodots
  exact absurd (List.mem_append_right _ List.mem_cons_self) nodots

/-- The path of a folder that is there has no two dots behind a missing name. -/
theorem reaches_of_isFolder {path : String} (h : d.isFolder path = true) : d.Reaches path := by
  rw [reaches_iff]
  intro start front back hstart hsteps
  obtain ⟨e, hlook, hfolder⟩ := (Option.any_eq_true _ _).1 h
  obtain ⟨place, hresolve, hfind, _⟩ := entryAt_eq_ok_iff.1 (look_eq_some_iff.1 hlook)
  have inside : d.FolderAt place := by
    unfold FolderAt
    rw [hfind]
    exact hfolder
  obtain ⟨start', hstart', hwalk⟩ := walk_steps_of_resolve hresolve inside
  obtain rfl := Except.ok.inj (hstart.symm.trans hstart')
  rw [hsteps, walk_append] at hwalk
  obtain ⟨next, hfront, _⟩ := bind_eq_ok.1 hwalk
  rw [hfront]
  exact fun h => by cases h

/-- The names up to the last two dots, and those behind them. -/
theorem exists_last_dots (names : List String) :
    ∃ front rest, names = front ++ rest ∧ ".." ∉ rest ∧
      ∀ before last, front = before ++ [last] → last = ".." := by
  induction names with
  | nil => exact ⟨[], [], rfl, List.not_mem_nil, by simp⟩
  | cons name names ih =>
    obtain ⟨front, rest, rfl, hrest, hfront⟩ := ih
    by_cases hnew : front = [] ∧ name ≠ ".."
    · obtain ⟨rfl, hdots⟩ := hnew
      exact ⟨[], name :: rest, rfl, List.not_mem_cons_of_ne_of_not_mem (Ne.symm hdots) hrest, by simp⟩
    · refine ⟨name :: front, rest, rfl, hrest, ?_⟩
      intro before last heq
      cases before with
      | nil =>
        obtain ⟨rfl, rfl⟩ := List.cons.inj heq
        exact not_not.1 fun hdots => hnew ⟨rfl, hdots⟩
      | cons first before => exact hfront before last (List.cons.inj heq).2

/-- The folders on the way to a path are looked for from where the path starts. -/
theorem startAt_of_mem_ancestors {path outer : String} (h : outer ∈ Path.ancestors path) :
    d.startAt outer = d.startAt path := by
  unfold startAt
  rw [Path.isAbsolute_of_mem_ancestors h]

/-- A step to a name that does not exist. -/
theorem stepAt_missing {place : Place} {name : String} (hrelative : Path.isRelative name = false)
    (hname : checkName name = .ok ()) (nothing : d.find? (place ++ [name]) = none) :
    d.stepAt place name = .error .notFound := by
  obtain ⟨hdot, hdots⟩ : name ≠ "." ∧ name ≠ ".." := by simpa [Path.isRelative] using hrelative
  unfold stepAt
  rw [if_neg hdot, if_neg hdots, hname, nothing]
  rfl

section

variable {path outer : String} {start : Place} {front rest : List String}

/-- Nothing is made where the names up to the last two dots do not lead to a folder, unless one of them
is missing. -/
theorem makeFolder_ne_ok_of_refused (reaches : d.Reaches path) (hmem : outer ∈ Path.ancestors path)
    (hstart : d.startAt path = .ok start) (hsteps : Path.steps path = front ++ rest)
    (hfront : ∀ before last, front = before ++ [last] → last = "..") {cause : OsError}
    (refused : d.walk start front = .error cause) : d.makeFolder outer ≠ .ok d' := by
  intro hmake
  obtain ⟨start', folder, name, hstart', hwalk, hlast, hname, _, hnothing, _⟩ :=
    exists_of_makeFolder hmake
  rw [startAt_of_mem_ancestors hmem, hstart] at hstart'
  obtain rfl := Except.ok.inj hstart'
  have hrelative := Path.not_isRelative_of_last? hlast
  have hdots : name ≠ ".." := by
    rintro rfl
    cases hrelative
  have hprefix : Path.folders outer ++ [name] <+: front ++ rest := by
    have hlead := Path.steps_prefix_of_mem_ancestors hmem
    rw [Path.steps_eq, hlast, hsteps] at hlead
    exact hlead
  rcases List.prefix_or_prefix_of_prefix hprefix (List.prefix_append front rest) with
    ⟨more, rfl⟩ | hshort
  · -- The folder would be made on the way to the last two dots, so its name is missing there.
    rcases List.eq_nil_or_concat more with rfl | ⟨between, last, rfl⟩
    · exact hdots (hfront _ _ (List.append_nil _))
    · rw [List.concat_eq_append, ← List.append_assoc] at hfront hsteps
      obtain rfl := hfront _ _ rfl
      rw [List.append_assoc, List.singleton_append] at hsteps
      refine reaches_iff.1 reaches start _ rest hstart hsteps ?_
      rw [walk_append, walk_append, hwalk]
      change (d.stepAt folder name >>= _) >>= _ = _
      rw [stepAt_missing hrelative hname hnothing]
      rfl
  · rcases List.prefix_concat_iff.1 hshort with rfl | ⟨more, hmore⟩
    · exact hdots (hfront _ _ rfl)
    · rw [← hmore, walk_append, refused] at hwalk
      cases hwalk

/-- **A folder that is made behind the last two dots** of a path changes nothing for a name in the folder
at the path: nothing stood there before, and the new folder is empty. -/
theorem find?_makeFolder {d₁ d₂ : Directory} (keeps : KeepsFolders d d₁)
    (hmem : outer ∈ Path.ancestors path) (hstart : d.startAt path = .ok start)
    (hsteps : Path.steps path = front ++ rest) (nodots : ".." ∉ rest) {inner : Place}
    (arrives : d.walk start front = .ok inner) (h : d₁.makeFolder outer = .ok d₂) (name : String) :
    d₂.find? (inner ++ rest.filter (· ≠ ".") ++ [name]) =
      d₁.find? (inner ++ rest.filter (· ≠ ".") ++ [name]) := by
  have keeps₂ := keeps.trans (keeps_makeFolder h).toKeepsFolders
  obtain ⟨start', place, hstart', hwalk, hnothing, hnew⟩ := walk_steps_of_makeFolder h
  rw [startAt_of_mem_ancestors hmem, startAt_of_keepsFolders keeps₂ hstart] at hstart'
  obtain rfl := Except.ok.inj hstart'
  have inside := folderAt_of_startAt hstart
  have hprefix : Path.steps outer <+: front ++ rest := by
    rw [← hsteps]
    exact Path.steps_prefix_of_mem_ancestors hmem
  rcases List.prefix_or_prefix_of_prefix hprefix (List.prefix_append front rest) with
    ⟨more, rfl⟩ | ⟨more, hmore⟩
  · -- What comes before the last two dots was there already.
    rw [walk_append] at arrives
    obtain ⟨place', hwalk', _⟩ := bind_eq_ok.1 arrives
    obtain rfl := Except.ok.inj (hwalk.symm.trans (walk_of_keepsFolders keeps₂ hwalk'))
    have hfolder := keeps.folderAt _ (folderAt_of_walk inside hwalk')
    exact absurd hfolder (not_folderAt_of_nothing hnothing)
  · rw [← hmore, walk_append, walk_of_keepsFolders keeps₂ arrives] at hwalk
    rw [← hmore] at hprefix
    obtain ⟨below, rfl⟩ := (List.prefix_append_right_inj front).1 hprefix
    have nodots' : ".." ∉ more := fun hdots => nodots (List.mem_append_left _ hdots)
    have hinner := keeps₂.folderAt _ (folderAt_of_walk inside arrives)
    obtain ⟨rfl, _⟩ := (walk_down_iff nodots' hinner).1 hwalk
    rw [List.filter_append, ← List.append_assoc, List.append_assoc _ _ [name], find?_append,
      find?_append d₁, hnew, hnothing]
    obtain ⟨first, others, hbelow⟩ := List.exists_cons_of_ne_nil
      (List.append_ne_nil_of_right_ne_nil (below.filter (· ≠ ".")) (List.cons_ne_nil name []))
    rw [hbelow]
    rfl

/-- **All folders that are made behind the last two dots** change nothing for a name in the folder at the
path. -/
theorem find?_makeFolders (hstart : d.startAt path = .ok start)
    (hsteps : Path.steps path = front ++ rest) (nodots : ".." ∉ rest) {inner : Place}
    (arrives : d.walk start front = .ok inner) (name : String) :
    (d.makeFolders path).2.find? (inner ++ rest.filter (· ≠ ".") ++ [name]) =
      d.find? (inner ++ rest.filter (· ≠ ".") ++ [name]) := by
  have all : Keeps d (d.makeFolders path).2 ∧
      (d.makeFolders path).2.find? (inner ++ rest.filter (· ≠ ".") ++ [name]) =
        d.find? (inner ++ rest.filter (· ≠ ".") ++ [name]) := by
    refine makeFolders_induction (P := fun d' => Keeps d d' ∧ d'.find? _ = d.find? _) ⟨.refl d, rfl⟩ ?_
    rintro outer hmem d₁ d₂ ⟨keeps, hsame⟩ hmake
    refine ⟨keeps.trans (keeps_makeFolder hmake), ?_⟩
    rw [find?_makeFolder keeps.toKeepsFolders hmem hstart hsteps nodots arrives hmake, hsame]
  exact all.2

end

/-- Whether a text can be the path of a name in a folder, whatever the directory, where the names behind
the last two dots of the folder are given. -/
def Writable (folder name : String) (rest : List String) : Prop :=
  checkPath (Path.join folder name) = .ok () ∧
    (∀ step ∈ rest, step ≠ "." → checkName step = .ok ()) ∧ checkName name = .ok ()

/-- **What a name in a folder leads to** is what stands at the place with the names behind the last two
dots. -/
theorem look_join_eq_some_iff {folder name : String} {start inner : Place} {front rest : List String}
    (isName : Path.IsName name) (hstart : d.startAt folder = .ok start)
    (hsteps : Path.steps folder = front ++ rest) (nodots : ".." ∉ rest)
    (arrives : d.walk start front = .ok inner) {e : Entry} :
    d.look (Path.join folder name) = some e ↔
      Writable folder name rest ∧ d.find? (inner ++ rest.filter (· ≠ ".") ++ [name]) = some e := by
  have hstart' : d.startAt (Path.join folder name) = .ok start := by
    rw [← hstart]
    unfold startAt
    rw [Path.isAbsolute_join isName.1]
  have inside : d.FolderAt inner := folderAt_of_walk (folderAt_of_startAt hstart) arrives
  have hfolderOf : ∀ next, d.folderOf (Path.join folder name) = .ok next ↔
      d.walk inner rest = .ok next := by
    intro next
    unfold folderOf
    rw [hstart', Path.folders_join isName, hsteps]
    change d.walk start (front ++ rest) = _ ↔ _
    rw [walk_append, arrives]
    rfl
  have hslash : Path.endsInSlash (Path.join folder name) = false :=
    Path.endsInSlash_join isName.1 isName.2.1
  rw [look_eq_some_iff, entryAt_eq_ok_iff, hslash]
  simp only [resolve_eq_ok_iff, Path.last?_join isName, Option.toList_some, hfolderOf,
    walk_down_iff nodots inside]
  constructor
  · rintro ⟨_, ⟨hpath, _, ⟨rfl, hnames, _⟩, hname, rfl⟩, hfind, _⟩
    exact ⟨⟨hpath, hnames, hname name rfl⟩, hfind⟩
  · rintro ⟨⟨hpath, hnames, hname⟩, hfind⟩
    refine ⟨_, ⟨hpath, _, ⟨rfl, hnames, ?_⟩, ?_, rfl⟩, hfind, rfl⟩
    · exact folderAt_of_find? hfind (List.cons_ne_nil _ _)
    · rintro _ ⟨⟩
      exact hname

/-- **Making a folder leaves what a name in it leads to as it was,** if no two dots on its path come behind
a missing name. The folders that were made before one was refused are no exception. -/
theorem Reaches.look_makeFolders {folder name : String} (reaches : d.Reaches folder)
    (isName : Path.IsName name) :
    (d.makeFolders folder).2.look (Path.join folder name) = d.look (Path.join folder name) := by
  obtain ⟨front, rest, hsteps, nodots, hfront⟩ := exists_last_dots (Path.steps folder)
  -- Where the names up to the last two dots do not lead to a folder, no folder is made at all.
  have unchanged (refused : ∀ outer ∈ Path.ancestors folder, ∀ d', d.makeFolder outer ≠ .ok d') :
      (d.makeFolders folder).2 = d := by
    apply makeFolders_induction (P := fun d' => d' = d) rfl
    rintro outer hmem d₁ d₂ rfl hmake
    exact absurd hmake (refused outer hmem d₂)
  cases hstart : d.startAt folder with
  | error cause =>
    rw [unchanged]
    intro outer hmem d' hmake
    obtain ⟨_, hresolve, _⟩ := makeFolder_eq_ok hmake
    obtain ⟨_, _, hfolder, _⟩ := resolve_eq_ok_iff.1 hresolve
    obtain ⟨_, hstart', _⟩ := bind_eq_ok.1 hfolder
    rw [startAt_of_mem_ancestors hmem, hstart] at hstart'
    cases hstart'
  | ok start =>
    cases arrives : d.walk start front with
    | error cause =>
      rw [unchanged]
      intro outer hmem d'
      exact makeFolder_ne_ok_of_refused reaches hmem hstart hsteps hfront arrives
    | ok inner =>
      have keeps := (keeps_makeFolders d folder).toKeepsFolders
      apply Option.ext
      intro e
      rw [look_join_eq_some_iff isName (startAt_of_keepsFolders keeps hstart) hsteps nodots
        (walk_of_keepsFolders keeps arrives), look_join_eq_some_iff isName hstart hsteps nodots arrives,
        find?_makeFolders hstart hsteps nodots arrives]

end Scaffolder.Directory
