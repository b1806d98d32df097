import Mathlib.Tactic.SplitIfs
import Scaffolder.Directory

/-!
# What is written can be read

Once a file is written, the path that it was written to leads to it (`read_write`), and a further write
to that path is as if it were the first (`write_write`).

The path is walked twice, in the directory before the file was written and in the one after. What the
folders on the way hold may differ between the two, so the walks are compared by the places that they
lead to (`walk`). A folder that there was is a folder still (`keepsFolders_insert`), and so the second
walk leads to where the first did (`resolve_of_keepsFolders`).
-/

namespace Scaffolder

/-- What succeeds after another step has that step succeed before it. -/
theorem bind_eq_ok {ε α β : Type} {x : Except ε α} {f : α → Except ε β} {b : β} :
    (x >>= f) = .ok b ↔ ∃ a, x = .ok a ∧ f a = .ok b := by
  cases x with
  | error e =>
    constructor
    · intro h
      cases h
    · rintro ⟨a, h, _⟩
      cases h
  | ok a =>
    constructor
    · intro h
      exact ⟨a, rfl, h⟩
    · rintro ⟨a', h, hf⟩
      obtain rfl := Except.ok.inj h
      exact hf

/-- What fails fails in its first step or in the rest. -/
theorem bind_eq_error {ε α β : Type} {x : Except ε α} {f : α → Except ε β} {e : ε} :
    (x >>= f) = .error e ↔ x = .error e ∨ ∃ a, x = .ok a ∧ f a = .error e := by
  rcases x with e' | a
  · simp [bind, Except.bind]
  · simp [bind, Except.bind]

/-! ## Places -/

namespace Entry

/-- Nothing stands below what is no folder. -/
theorem find?_below_file {e : Entry} (h : e.isFolder = false) {place : Place} (hne : place ≠ []) :
    e.find? place = none := by
  obtain ⟨name, rest, rfl⟩ := List.exists_cons_of_ne_nil hne
  cases e with
  | text _ => rfl
  | binary _ => rfl
  | locked => rfl
  | folder _ => cases h

/-- What is put at a place takes the stead of what was put there before. -/
theorem insert_insert (e : Entry) (place : Place) (new new' : Entry) :
    (e.insert place new).insert place new' = e.insert place new' := by
  induction place generalizing e with
  | nil => rfl
  | cons name place ih =>
    have hwithout : without name (without name e.children) = without name e.children := by
      simp [without]
    have hself : without name ((name, ((e.children.lookup name).getD (.folder [])).insert place new)
        :: without name e.children) = without name e.children := by
      rw [← hwithout]
      simp [without]
    rw [insert_cons, insert_cons, insert_cons, children_folder, List.lookup_cons_self,
      Option.getD_some, ih, hself]

/-- What leads to a place at which something was put is a folder. -/
theorem find?_insert_above (e new : Entry) (above below : Place) (hne : below ≠ []) :
    ∃ children, (e.insert (above ++ below) new).find? above = some (.folder children) := by
  induction above generalizing e with
  | nil =>
    obtain ⟨name, rest, rfl⟩ := List.exists_cons_of_ne_nil hne
    exact ⟨_, rfl⟩
  | cons name above ih =>
    obtain ⟨children, hfind⟩ := ih ((e.children.lookup name).getD (.folder []))
    refine ⟨children, ?_⟩
    rw [List.cons_append, insert_cons, find?_cons, children_folder, List.lookup_cons_self]
    exact hfind

/-- A folder is what it holds. -/
theorem isFolder_iff {e : Entry} : e.isFolder = true ↔ ∃ children, e = .folder children := by
  constructor
  · intro h
    cases e with
    | folder children => exact ⟨children, rfl⟩
    | text _ => cases h
    | binary _ => cases h
    | locked => cases h
  · rintro ⟨children, rfl⟩
    rfl

end Entry

namespace Directory

variable {d d' : Directory}

/-- Whether a folder stands at a place. -/
def FolderAt (d : Directory) (place : Place) : Prop := (d.find? place).any Entry.isFolder = true

/-- A folder stands at a place if something that holds names is found there. -/
theorem folderAt_iff {place : Place} :
    d.FolderAt place ↔ ∃ children, d.find? place = some (.folder children) := by
  unfold FolderAt
  rw [Option.any_eq_true]
  constructor
  · rintro ⟨e, he, hfolder⟩
    obtain ⟨children, rfl⟩ := Entry.isFolder_iff.1 hfolder
    exact ⟨children, he⟩
  · rintro ⟨children, h⟩
    exact ⟨_, h, rfl⟩

/-- The root is a folder. -/
theorem folderAt_nil (d : Directory) : d.FolderAt [] := rfl

/-- What stands below a place is found from there. -/
theorem find?_append (d : Directory) (place below : Place) :
    d.find? (place ++ below) = (d.find? place).bind fun child => child.find? below :=
  d.root.find?_append place below

/-- What stands on the way to something is a folder. -/
theorem folderAt_of_find? {place below : Place} {e : Entry} (h : d.find? (place ++ below) = some e)
    (hne : below ≠ []) : d.FolderAt place := by
  rw [find?_append] at h
  obtain ⟨e', hplace, hbelow⟩ := Option.bind_eq_some_iff.1 h
  cases hfolder : e'.isFolder with
  | true =>
    obtain ⟨children, rfl⟩ := Entry.isFolder_iff.1 hfolder
    exact folderAt_iff.2 ⟨children, hplace⟩
  | false =>
    rw [Entry.find?_below_file hfolder hne] at hbelow
    cases hbelow

/-- What stands on the way to a folder is a folder. -/
theorem FolderAt.above {place above : Place} (h : d.FolderAt place) (hle : above <+: place) :
    d.FolderAt above := by
  obtain ⟨rest, rfl⟩ := hle
  rcases rest with _ | ⟨name, rest⟩
  · rw [List.append_nil] at h
    exact h
  · obtain ⟨children, hfind⟩ := folderAt_iff.1 h
    exact folderAt_of_find? hfind (List.cons_ne_nil _ _)

/-- The folder around a folder is one. -/
theorem FolderAt.dropLast {place : Place} (h : d.FolderAt place) : d.FolderAt place.dropLast :=
  h.above (List.dropLast_prefix place)

/-- Nothing is no folder. -/
theorem not_folderAt_of_nothing {place : Place} (nothing : d.find? place = none) :
    ¬ d.FolderAt place := by
  unfold FolderAt
  rw [nothing]
  exact Bool.false_ne_true

/-- What is put at a place takes the stead of what was put there before. -/
theorem insert_insert (d : Directory) (place : Place) (new new' : Entry) :
    (d.insert place new).insert place new' = d.insert place new' := by
  cases place with
  | nil => rfl
  | cons name place =>
    have hroot := d.root.insert_insert (name :: place) new new'
    exact congrArg (fun e => { d with children := e.children }) hroot

/-- What leads to a place at which something was put is a folder. -/
theorem folderAt_insert_above (d : Directory) (new : Entry) {above below : Place}
    (hne : below ≠ []) : (d.insert (above ++ below) new).FolderAt above := by
  cases above with
  | nil => exact folderAt_nil _
  | cons name above =>
    exact folderAt_iff.2 (d.root.find?_insert_above new (name :: above) below hne)

/-- Whether every folder of the first directory is one in the second, and both are seen from the same
place. -/
structure KeepsFolders (d d' : Directory) : Prop where
  /-- The working directory stays where it is. -/
  here : d'.here = d.here
  /-- A folder stays a folder. -/
  folderAt : ∀ place, d.FolderAt place → d'.FolderAt place

/-- What keeps folders twice keeps them. -/
theorem KeepsFolders.trans {d'' : Directory} (h : KeepsFolders d d') (h' : KeepsFolders d' d'') :
    KeepsFolders d d'' where
  here := h'.here.trans h.here
  folderAt := fun place hfolder => h'.folderAt place (h.folderAt place hfolder)

/-- **A folder stays a folder** when something is put where no folder stands. What it holds may be
changed. -/
theorem keepsFolders_insert {place : Place} (new : Entry) (hfile : ¬ d.FolderAt place) :
    KeepsFolders d (d.insert place new) where
  here := rfl
  folderAt := by
    intro other h
    by_cases above : other <+: place
    · obtain ⟨below, rfl⟩ := above
      have hne : below ≠ [] := by
        rintro rfl
        rw [List.append_nil] at hfile
        exact hfile h
      exact d.folderAt_insert_above new hne
    · by_cases below : place <+: other
      · obtain ⟨rest, rfl⟩ := below
        have hrest : rest ≠ [] := by
          rintro rfl
          exact above (by simp)
        obtain ⟨children, hfind⟩ := folderAt_iff.1 h
        exact absurd (folderAt_of_find? hfind hrest) hfile
      · unfold FolderAt
        rw [find?_insert_of_apart d new above below]
        exact h

/-! ## Walks, told by places -/

/-- Where a path starts, told by its place. -/
def startAt (d : Directory) (path : String) : Except OsError Place :=
  if Path.isAbsolute path then .ok []
  else if (d.find? d.here).any Entry.isFolder then .ok d.here
  else .error .notFound

/-- A step of a walk, told by places. -/
def stepAt (d : Directory) (place : Place) (name : String) : Except OsError Place :=
  if name = "." then .ok place
  else if name = ".." then .ok place.dropLast
  else do
    checkName name
    match d.find? (place ++ [name]) with
    | none => .error .notFound
    | some (.folder _) => .ok (place ++ [name])
    | some _ => .error .notDirectory

/-- A walk, told by places. -/
def walk (d : Directory) (place : Place) (names : List String) : Except OsError Place :=
  names.foldlM d.stepAt place

/-- A walk of no steps stays where it is. -/
@[simp] theorem walk_nil (place : Place) : d.walk place [] = .ok place := rfl

/-- A walk makes its first step and goes on. -/
theorem walk_cons (place : Place) (name : String) (names : List String) :
    d.walk place (name :: names) = d.stepAt place name >>= fun next => d.walk next names :=
  List.foldlM_cons

/-- A walk of two parts makes one after the other. -/
theorem walk_append (place : Place) (front back : List String) :
    d.walk place (front ++ back) = d.walk place front >>= fun next => d.walk next back :=
  List.foldlM_append

/-- The folder that names lead to is found by them. -/
theorem folder?_eq_some {trail : List String} {children : List (String × Entry)}
    (h : d.find? trail.reverse = some (.folder children)) :
    d.folder? trail = some ⟨trail, children, h⟩ := by
  unfold folder?
  split
  · next children' h' =>
    obtain rfl : children' = children := by
      rw [h] at h'
      injection h' with h'
      injection h' with h'
      exact h'.symm
    rfl
  · next hne => exact absurd h (hne children)

/-- Nothing but a folder is found as one. -/
theorem folder?_eq_none {trail : List String} (h : ¬ d.FolderAt trail.reverse) :
    d.folder? trail = none := by
  unfold folder?
  split
  · next children h' => exact absurd (folderAt_iff.2 ⟨children, h'⟩) h
  · rfl

/-- A folder that a walk has come to is one. -/
theorem Folder.folderAt (f : d.Folder) : d.FolderAt f.place := folderAt_iff.2 ⟨_, f.stands⟩

/-- The folder above a folder is at the place without the last name. -/
theorem Folder.place_up (f : d.Folder) : f.up.place = f.place.dropLast := by
  have htail : f.trail.tail.reverse = f.place.dropLast := by
    unfold place
    rw [List.dropLast_reverse]
  obtain ⟨children, hfolder⟩ := folderAt_iff.1 (htail ▸ f.folderAt.dropLast)
  unfold up
  rw [folder?_eq_some hfolder]
  exact htail

/-- A walk starts at the place where the path does. -/
theorem map_start (path : String) : (d.start path).map Folder.place = d.startAt path := by
  unfold start startAt
  split
  · rfl
  · cases hhere : (d.find? d.here).any Entry.isFolder with
    | false =>
      have hnone : d.folder? d.here.reverse = none := by
        apply folder?_eq_none
        rw [List.reverse_reverse]
        exact Bool.eq_false_iff.1 hhere
      rw [hnone]
      rfl
    | true =>
      obtain ⟨children, hfolder⟩ := folderAt_iff.1 hhere
      rw [← List.reverse_reverse d.here] at hfolder
      rw [folder?_eq_some hfolder]
      exact congrArg Except.ok (List.reverse_reverse d.here)

/-- Into a folder by its name, told by the name. -/
theorem Folder.map_enter (f : d.Folder) (name : String) :
    (f.enter name).map place =
      match d.find? (f.place ++ [name]) with
      | none => .error .notFound
      | some (.folder _) => .ok (f.place ++ [name])
      | some _ => .error .notDirectory := by
  have hfound : d.find? (f.place ++ [name]) = f.children.lookup name := find?_concat f.stands name
  unfold enter
  split
  · next hnone =>
    rw [hfound.trans hnone]
    rfl
  · next children hfolder =>
    rw [hfound.trans hfolder]
    exact congrArg Except.ok List.reverse_cons
  · next e hne hfile =>
    rw [hfound.trans hfile]
    cases e with
    | folder children => exact absurd rfl (hne children)
    | text _ => rfl
    | binary _ => rfl
    | locked => rfl

/-- A step leads to the place that the names tell. -/
theorem map_step (f : d.Folder) (name : String) :
    (d.step f name).map Folder.place = d.stepAt f.place name := by
  unfold step stepAt
  split_ifs
  · rfl
  · exact congrArg Except.ok f.place_up
  · cases checkName name with
    | error cause => rfl
    | ok u => exact f.map_enter name

/-- A walk leads to the place that the names tell. -/
theorem map_walk (f : d.Folder) (names : List String) :
    (names.foldlM d.step f).map Folder.place = d.walk f.place names := by
  induction names generalizing f with
  | nil => rfl
  | cons name names ih =>
    have hstep := map_step f name
    rw [List.foldlM_cons, walk_cons, ← hstep]
    cases d.step f name with
    | error cause => rfl
    | ok next => exact ih next

/-- The place where something succeeds, if it is told by places. -/
theorem map_place_eq_ok {x : Except OsError d.Folder} {place : Place} :
    x.map Folder.place = .ok place ↔ ∃ f, x = .ok f ∧ f.place = place := by
  cases x with
  | error cause =>
    constructor
    · intro h
      cases h
    · rintro ⟨_, h, _⟩
      cases h
  | ok f =>
    constructor
    · intro h
      exact ⟨f, rfl, Except.ok.inj h⟩
    · rintro ⟨_, h, rfl⟩
      rw [Except.ok.inj h]
      rfl

/-- Where a path leads on its folders. -/
def folderOf (d : Directory) (path : String) : Except OsError Place :=
  d.startAt path >>= fun start => d.walk start (Path.folders path)

/-- The walk through the folders of a path leads to the place that the names tell. -/
theorem map_folderOf (path : String) :
    (d.start path >>= fun start => (Path.folders path).foldlM d.step start).map Folder.place =
      d.folderOf path := by
  unfold folderOf
  rw [← map_start]
  cases d.start path with
  | error cause => rfl
  | ok f => exact map_walk f _

/-- **What a path names:** the folder that its names lead to, or the name in that folder. -/
theorem resolve_eq_ok_iff {path : String} {place : Place} :
    d.resolve path = .ok place ↔
      checkPath path = .ok () ∧ ∃ folder, d.folderOf path = .ok folder ∧
        (∀ name ∈ Path.last? path, checkName name = .ok ()) ∧
        place = folder ++ (Path.last? path).toList := by
  have hwalk : ∀ folder, d.folderOf path = .ok folder ↔
      ∃ start f, d.start path = .ok start ∧ (Path.folders path).foldlM d.step start = .ok f ∧
        f.place = folder := by
    intro folder
    rw [← map_folderOf, map_place_eq_ok]
    simp only [bind_eq_ok]
    exact ⟨fun ⟨f, ⟨start, hs, hf⟩, hp⟩ => ⟨start, f, hs, hf, hp⟩,
      fun ⟨start, f, hs, hf, hp⟩ => ⟨f, ⟨start, hs, hf⟩, hp⟩⟩
  unfold resolve
  constructor
  · intro h
    obtain ⟨u, hpath, h⟩ := bind_eq_ok.1 h
    obtain ⟨start, hstart, h⟩ := bind_eq_ok.1 h
    obtain ⟨f, hf, h⟩ := bind_eq_ok.1 h
    refine ⟨hpath, f.place, (hwalk _).2 ⟨start, f, hstart, hf, rfl⟩, ?_⟩
    cases hlast : Path.last? path with
    | none =>
      simp only [hlast] at h
      obtain rfl := Except.ok.inj h
      exact ⟨by simp, by simp⟩
    | some name =>
      simp only [hlast] at h
      obtain ⟨v, hname, h⟩ := bind_eq_ok.1 h
      obtain rfl := Except.ok.inj h
      exact ⟨by simpa using hname, by simp⟩
  · rintro ⟨hpath, folder, hfolder, hname, rfl⟩
    obtain ⟨start, f, hstart, hf, rfl⟩ := (hwalk _).1 hfolder
    refine bind_eq_ok.2 ⟨(), hpath, bind_eq_ok.2 ⟨start, hstart, bind_eq_ok.2 ⟨f, hf, ?_⟩⟩⟩
    cases hlast : Path.last? path with
    | none => simp [pure, Except.pure]
    | some name =>
      rw [hlast] at hname
      exact bind_eq_ok.2 ⟨(), hname name rfl, rfl⟩

/-! ## Walks made again -/

/-- What a step of a walk does. -/
theorem stepAt_eq_ok_iff {place next : Place} {name : String} :
    d.stepAt place name = .ok next ↔
      (name = "." ∧ next = place) ∨ (name = ".." ∧ next = place.dropLast) ∨
        (Path.isRelative name = false ∧ checkName name = .ok () ∧ d.FolderAt (place ++ [name]) ∧
          next = place ++ [name]) := by
  have hrelative : Path.isRelative name = false ↔ name ≠ "." ∧ name ≠ ".." := by
    simp [Path.isRelative]
  rw [hrelative]
  unfold stepAt
  split_ifs with hdot hdots
  · simp [hdot, eq_comm]
  · simp [hdots, eq_comm]
  · simp only [hdot, hdots, false_and, false_or, ne_eq, not_false_eq_true, true_and, bind_eq_ok]
    constructor
    · rintro ⟨u, hcheck, h⟩
      refine ⟨hcheck, ?_⟩
      rcases hfind : d.find? (place ++ [name]) with _ | e
      · rw [hfind] at h
        cases h
      · rw [hfind] at h
        cases e with
        | folder children => exact ⟨folderAt_iff.2 ⟨_, hfind⟩, (Except.ok.inj h).symm⟩
        | text _ => cases h
        | binary _ => cases h
        | locked => cases h
    · rintro ⟨hcheck, hfolder, rfl⟩
      obtain ⟨children, hfind⟩ := folderAt_iff.1 hfolder
      exact ⟨(), hcheck, by rw [hfind]⟩

/-- A path starts where it did, if its folders are kept. -/
theorem startAt_of_keepsFolders (keeps : KeepsFolders d d') {path : String} {place : Place}
    (h : d.startAt path = .ok place) : d'.startAt path = .ok place := by
  unfold startAt at h ⊢
  rw [keeps.here]
  split_ifs at h ⊢ with habsolute hhere' hhere
  · exact h
  · exact h
  · exact absurd (keeps.folderAt _ ‹_›) hhere'

/-- **A step can be made again** where all folders are kept. -/
theorem stepAt_of_keepsFolders (keeps : KeepsFolders d d') {place next : Place} {name : String}
    (h : d.stepAt place name = .ok next) : d'.stepAt place name = .ok next := by
  rw [stepAt_eq_ok_iff] at h ⊢
  rcases h with hdot | hdots | ⟨hname, hcheck, hfolder, hnext⟩
  · exact .inl hdot
  · exact .inr (.inl hdots)
  · exact .inr (.inr ⟨hname, hcheck, keeps.folderAt _ hfolder, hnext⟩)

/-- **A walk can be made again** where all folders are kept. -/
theorem walk_of_keepsFolders (keeps : KeepsFolders d d') {names : List String} {place next : Place}
    (h : d.walk place names = .ok next) : d'.walk place names = .ok next := by
  induction names generalizing place with
  | nil => exact h
  | cons name names ih =>
    rw [walk_cons] at h ⊢
    obtain ⟨first, hstep, h⟩ := bind_eq_ok.1 h
    exact bind_eq_ok.2 ⟨first, stepAt_of_keepsFolders keeps hstep, ih h⟩

/-- **A path names what it named,** if all folders are kept. -/
theorem resolve_of_keepsFolders (keeps : KeepsFolders d d') {path : String} {place : Place}
    (h : d.resolve path = .ok place) : d'.resolve path = .ok place := by
  obtain ⟨hpath, folder, hfolder, hrest⟩ := resolve_eq_ok_iff.1 h
  obtain ⟨start, hstart, hwalk⟩ := bind_eq_ok.1 hfolder
  refine resolve_eq_ok_iff.2 ⟨hpath, folder, bind_eq_ok.2 ⟨start, ?_, ?_⟩, hrest⟩
  · exact startAt_of_keepsFolders keeps hstart
  · exact walk_of_keepsFolders keeps hwalk

/-! ## Files -/

/-- **What stands at a path** is what stands at the place that it names. -/
theorem entryAt_eq_ok_iff {path : String} {e : Entry} :
    d.entryAt path = .ok e ↔ ∃ place, d.resolve path = .ok place ∧ d.find? place = some e ∧
      (Path.endsInSlash path && !e.isFolder) = false := by
  unfold entryAt
  rw [bind_eq_ok]
  refine exists_congr fun place => and_congr_right fun _ => ?_
  cases d.find? place with
  | none => simp
  | some e' =>
    cases hslash : Path.endsInSlash path && !e'.isFolder with
    | true =>
      simp only [hslash, ↓reduceIte, Option.some.injEq]
      constructor
      · intro h
        cases h
      · rintro ⟨rfl, h⟩
        rw [hslash] at h
        cases h
    | false =>
      simp only [hslash, Bool.false_eq_true, ↓reduceIte, Except.ok.injEq, Option.some.injEq]
      constructor
      · rintro rfl
        exact ⟨rfl, hslash⟩
      · exact fun h => h.1

/-- What is found at a path stands there. -/
theorem look_eq_some_iff {path : String} {e : Entry} :
    d.look path = some e ↔ d.entryAt path = .ok e := by
  unfold look
  cases d.entryAt path with
  | error cause =>
    constructor
    · intro h
      cases h
    · intro h
      cases h
  | ok e' =>
    constructor
    · intro h
      rw [Option.some.inj h]
    · intro h
      rw [Except.ok.inj h]
      rfl

/-- A file that is read is there. -/
theorem exists_of_read {path content : String} (h : d.read path = .ok content) :
    d.exists path = true := by
  unfold read at h
  obtain ⟨e, he, _⟩ := bind_eq_ok.1 h
  unfold «exists» look
  rw [he]
  rfl

/-- Nothing stands where reading finds nothing. -/
theorem not_exists_of_read {path : String} (h : d.read path = .error .notFound) :
    d.exists path = false := by
  unfold read at h
  unfold «exists» look
  cases hentry : d.entryAt path with
  | error cause => rfl
  | ok e =>
    rw [hentry] at h
    cases e with
    | folder _ => cases h
    | text _ => cases h
    | binary _ => cases h
    | locked => cases h

/-- A file goes to the place that its path names, unless a folder stands there. -/
theorem putFile_of_resolve {path : String} {place : Place} (hresolve : d.resolve path = .ok place)
    (hfile : ¬ d.FolderAt place) (hslash : Path.endsInSlash path = false) (file : Entry) :
    d.putFile path file = d.put place file := by
  have hfolder : (d.find? place).any Entry.isFolder = false := Bool.eq_false_iff.2 hfile
  unfold putFile
  rw [hresolve]
  change (if (d.find? place).any Entry.isFolder || Path.endsInSlash path then _ else _) = _
  rw [hfolder, hslash]
  rfl

/-- **When a file can be put at a path:** the path names a place where no folder stands and where the
file is not denied. -/
theorem putFile_eq_ok_iff {path : String} {file : Entry} :
    d.putFile path file = .ok d' ↔
      ∃ place, d.resolve path = .ok place ∧ ¬ d.FolderAt place ∧ Path.endsInSlash path = false ∧
        d.denial? place file = none ∧ d' = d.insert place file := by
  unfold putFile
  rw [bind_eq_ok]
  refine exists_congr fun place => and_congr_right fun _ => ?_
  unfold FolderAt
  cases hfolder : (d.find? place).any Entry.isFolder with
  | true => simp
  | false =>
    cases hslash : Path.endsInSlash path with
    | true => simp
    | false =>
      unfold put
      cases hdenied : d.denial? place file with
      | some lacking => simp
      | none => simp [eq_comm]

/-- **Putting a file twice** at a place is putting the second there, unless the first is locked. -/
theorem put_insert {place : Place} {new : Entry} (hne : place ≠ []) (unlocked : new.isLocked = false)
    (allowed : d.denial? place new = none) (new' : Entry) :
    (d.insert place new).put place new' = d.put place new' := by
  have hbefore : (d.find? place).any Entry.isLocked = false := by
    unfold denial? at allowed
    split_ifs at allowed with hlocked
    exact Bool.eq_false_iff.2 hlocked
  have hafter : ((d.insert place new).find? place).any Entry.isLocked = false := by
    rw [find?_insert_self d new hne]
    exact unlocked
  have hdenial : (d.insert place new).denial? place new' = d.denial? place new' := by
    unfold denial?
    rw [hbefore, hafter]
    rfl
  unfold put
  rw [hdenial, insert_insert]

/-- **A path leads to the file that was written there,** and what was written before it leaves no
trace. -/
theorem exists_of_write {path content : String} (h : d.write path content = .ok d') :
    ∃ place, d'.resolve path = .ok place ∧ Path.endsInSlash path = false ∧
      d'.find? place = some (.text content) ∧
      ∀ content', d'.write path content' = d.write path content' := by
  obtain ⟨place, hresolve, hfile, hslash, hallowed, rfl⟩ := putFile_eq_ok_iff.1 h
  have hne : place ≠ [] := by
    rintro rfl
    exact hfile (folderAt_nil d)
  have hresolve' := resolve_of_keepsFolders (keepsFolders_insert (.text content) hfile) hresolve
  have hself := find?_insert_self d (.text content) hne
  refine ⟨place, hresolve', hslash, hself, fun content' => ?_⟩
  have hfile' : ¬ (d.insert place (.text content)).FolderAt place := by
    unfold FolderAt
    rw [hself]
    exact Bool.false_ne_true
  unfold write
  rw [putFile_of_resolve hresolve' hfile' hslash, putFile_of_resolve hresolve hfile hslash]
  exact put_insert hne rfl hallowed _

/-- **What is written is read.** -/
theorem read_write {path content : String} (h : d.write path content = .ok d') :
    d'.read path = .ok content := by
  obtain ⟨place, hresolve, hslash, hfind, -⟩ := exists_of_write h
  have hat : d'.entryAt path = .ok (.text content) := by
    apply entryAt_eq_ok_iff.2
    refine ⟨place, hresolve, hfind, ?_⟩
    rw [hslash]
    rfl
  unfold read
  rw [hat]
  rfl

/-- **The last write holds:** what was written before it to the same path leaves no trace. -/
theorem write_write {path content : String} (h : d.write path content = .ok d')
    (content' : String) : d'.write path content' = d.write path content' := by
  obtain ⟨_, _, _, _, hlast⟩ := exists_of_write h
  exact hlast content'

end Directory
end Scaffolder
