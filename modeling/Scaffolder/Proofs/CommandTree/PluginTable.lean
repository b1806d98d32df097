import Scaffolder.CommandTree.Texts
import Scaffolder.GoLayout
import Scaffolder.Proofs.PluginKey.Spelling
import Scaffolder.Proofs.ProjectVersion
import Scaffolder.Proofs.Registry
import Scaffolder.Proofs.Text.Pieces

/-!
# What the table of plugins says

Without a selected plugin, the help page of `init` has a table of the plugins at hand.

* **Words** (`IsWord`): versions and keys hold none of the characters by which the table sets them apart.
* **Lines** (`Row`): what a line says, and how it is written. A line can be read in one way only
  (`Row.eq_of_text_eq`), piece by piece: behind the version, the entries are what stands between its commas.
* **The line of a version** (`rowFor`) shows its candidates, and marks the one with the key of its default
  (`shows_rowFor`).
* **The table**, cut at its line ends, is a heading and these lines (`splitOn_pluginTable`).

`pluginTable_shows` says this of every registry that batches lead to.
-/

namespace Scaffolder.CommandTree

/-! ## Words -/

/-- Whether a text is made of characters from the hyphen on. Line ends, blanks, brackets and commas come
before it. -/
def IsWord (s : String) : Prop := ∀ c ∈ s.toList, '-'.toNat ≤ c.toNat

/-- A word has no character before the hyphen, so neither a space nor a comma nor a bracket. -/
theorem IsWord.notMem {s : String} (h : IsWord s) {c : Char} (hc : c.toNat < '-'.toNat) : c ∉ s.toList :=
  fun hmem => Nat.not_le_of_lt hc (h c hmem)

/-- Lower-case letters and digits come behind the hyphen. -/
theorem hyphen_le_of_isLowerOrDigit {c : Char} (h : Text.isLowerOrDigit c = true) :
    '-'.toNat ≤ c.toNat :=
  Nat.le_trans (by decide) (Text.toNat_of_isLowerOrDigit h).1

/-- A project version that can be parsed is a word. -/
theorem isWord_version {v : ProjectVersion} (h : v.fault? = none) : IsWord v.text := by
  unfold ProjectVersion.fault? at h
  rcases hmajor : v.major with e | n
  · simp [hmajor] at h
  · obtain ⟨-, -, suffix, hsuffix, htext⟩ := ProjectVersion.major_eq_ok_iff.1 hmajor
    intro c hc
    rw [htext] at hc
    rcases List.mem_append.1 hc with hc | hc
    · exact hyphen_le_of_isLowerOrDigit (Text.isLowerOrDigit_of_mem_toDigits hc)
    · cases hsuffix with
      | absent => cases hc
      | staged nonempty plain =>
        rcases List.mem_cons.1 hc with rfl | hc
        · exact Nat.le_refl _
        · exact hyphen_le_of_isLowerOrDigit (plain c hc)

/-- A valid name is a word. -/
theorem isWord_name {name : String} (h : PluginName.validate name = .ok ()) : IsWord name :=
  fun _ hc => (PluginName.toNat_of_validate h hc).1

/-- The version of a plugin is a word. -/
theorem isWord_pluginVersion (v : PluginVersion) : IsWord v.text :=
  fun _ hc => (PluginVersion.toNat_of_mem_text hc).1

/-- **A key that can be written is a word.** -/
theorem isWord_key {k : PluginKey} (h : k.Proper) : IsWord k.text := by
  have hname := isWord_name h.name
  obtain ⟨name, _ | v⟩ := k
  · exact hname
  · intro c hc
    rw [PluginKey.text_some, String.toList_append, String.toList_append] at hc
    rcases List.mem_append.1 hc with hc | hc
    · rcases List.mem_append.1 hc with hc | hc
      · exact hname c hc
      · rw [List.mem_singleton.1 hc]
        decide
    · exact isWord_pluginVersion v c hc

/-! ## Lines -/

/-- A key as it stands in a line, with the mark of a default or without it. -/
@[ext]
structure Entry where
  /-- The key. -/
  key : PluginKey
  /-- Whether it is marked. -/
  marked : Bool

/-- What a line of the table says: a version and the keys of its candidates. -/
@[ext]
structure Row where
  /-- The version. -/
  version : ProjectVersion
  /-- The keys, in the order in which they stand in the line. -/
  entries : List Entry

/-- How an entry is written. -/
def Entry.text (e : Entry) : String := e.key.text ++ if e.marked then " (default)" else ""

namespace Row

/-- How a line is written, without its end: the version is filled up to ten characters, and the entries are
set apart by commas and blanks. -/
def text (w : Row) : String :=
  "  " ++ padRight 10 w.version.text ++ " " ++ String.intercalate ", " (w.entries.map Entry.text)

/-- The keys of a line that are marked. -/
def marked (w : Row) : List PluginKey := (w.entries.filter Entry.marked).map Entry.key

/-- Whether a line can be read: it has a well-formed version, and at least one key. -/
structure Legible (w : Row) : Prop where
  /-- The version is well formed. -/
  version : w.version.fault? = none
  /-- There is a key. -/
  nonempty : w.entries ≠ []
  /-- The keys are such that they can be read. -/
  keys : ∀ e ∈ w.entries, e.key.Proper

end Row

namespace Entry

variable {e e' : Entry}

/-- An entry is its key, and behind it the mark if it has one. -/
theorem toList_text (e : Entry) :
    e.text.toList = e.key.text.toList ++ if e.marked then " (default)".toList else [] := by
  unfold text
  rw [String.toList_append]
  split
  · rfl
  · rfl

/-- Only the mark has characters before the hyphen, and it has no comma and no line end. -/
theorem notMem_text (h : e.key.Proper) {c : Char} (hc : c.toNat < '-'.toNat)
    (hmark : c ∉ " (default)".toList) : c ∉ e.text.toList := by
  rw [toList_text, List.mem_append, not_or]
  refine ⟨(isWord_key h).notMem hc, ?_⟩
  split
  · exact hmark
  · exact List.not_mem_nil

/-- An entry has a blank if it is marked. -/
theorem blank_mem_text_iff (h : e.key.Proper) : ' ' ∈ e.text.toList ↔ e.marked = true := by
  have hkey : ' ' ∉ e.key.text.toList := (isWord_key h).notMem (by decide)
  rw [toList_text, List.mem_append]
  rcases e.marked with _ | _
  · simp [hkey]
  · simp

/-- **An entry is told by how it is written.** -/
theorem eq_of_text_eq (h : e.key.Proper) (h' : e'.key.Proper) (heq : e.text = e'.text) : e = e' := by
  have hmarked : e.marked = e'.marked := by
    rw [Bool.eq_iff_iff, ← blank_mem_text_iff h, ← blank_mem_text_iff h', heq]
  have hkey : e.key.text = e'.key.text := by
    have hchars := congrArg String.toList heq
    rw [toList_text, toList_text, hmarked, List.append_left_inj] at hchars
    exact String.toList_inj.1 hchars
  have hparse := h.parse_text
  rw [hkey, h'.parse_text] at hparse
  exact Entry.ext (Except.ok.inj hparse.symm) hmarked

/-- So are several entries in a row. -/
theorem eq_of_map_toList_eq {es es' : List Entry} (h : ∀ e ∈ es, e.key.Proper)
    (h' : ∀ e ∈ es', e.key.Proper)
    (heq : (es.map fun e => e.text.toList) = es'.map fun e => e.text.toList) : es = es' := by
  induction es generalizing es' with
  | nil => exact (List.map_eq_nil_iff.1 heq.symm).symm
  | cons e es ih =>
    obtain ⟨e', es', rfl, htext, hrest⟩ := List.map_eq_cons_iff.1 heq.symm
    obtain ⟨he, hes⟩ := List.forall_mem_cons.1 h
    obtain ⟨he', hes'⟩ := List.forall_mem_cons.1 h'
    rw [eq_of_text_eq he he' (String.toList_inj.1 htext.symm), ih hes hes' hrest.symm]

end Entry

namespace Row

variable {w w' : Row}

/-- The pieces of a line that its commas set apart. -/
def pieces (w : Row) : List (List Char) := w.entries.map fun e => e.text.toList

/-- The pieces of a line have none of the characters that separate them. -/
theorem notMem_pieces (h : w.Legible) {c : Char} (hc : c.toNat < '-'.toNat)
    (hmark : c ∉ " (default)".toList) : ∀ piece ∈ w.pieces, c ∉ piece := by
  intro piece hpiece
  obtain ⟨e, he, rfl⟩ := List.mem_map.1 hpiece
  exact e.notMem_text (h.keys e he) hc hmark

/-- A line has a blank behind its version. -/
theorem toList_text (w : Row) :
    w.text.toList = ' ' :: ' ' :: (w.version.text.toList ++
      ' ' :: (List.replicate (10 - w.version.text.length) ' ' ++ [',', ' '].intercalate w.pieces)) := by
  have hfill : ∀ n (rest : List Char),
      List.replicate n ' ' ++ ' ' :: rest = ' ' :: (List.replicate n ' ' ++ rest) := by
    intro n rest
    rw [List.append_cons, ← List.replicate_succ', List.replicate_succ, List.cons_append]
  unfold text padRight pieces
  rw [← hfill]
  simp [Function.comp_def]

/-- A line is one line. -/
theorem lineEnd_notMem_text (h : w.Legible) : '\n' ∉ w.text.toList := by
  have hversion : '\n' ∉ w.version.text.toList := (isWord_version h.version).notMem (by decide)
  have hpieces : '\n' ∉ [',', ' '].intercalate w.pieces := by
    intro hmem
    rcases Text.mem_of_mem_intercalate hmem with hsep | ⟨piece, hpiece, hc⟩
    · exact absurd hsep (by decide)
    · exact notMem_pieces h (by decide) (by decide) piece hpiece hc
  rw [toList_text]
  simp [hversion, hpieces]

/-- **A line can be read in one way only:** the version ends at the first blank, and then the entries stand
between the commas. -/
theorem eq_of_text_eq (h : w.Legible) (h' : w'.Legible) (heq : w.text = w'.text) : w = w' := by
  have hchars := congrArg String.toList heq
  rw [toList_text, toList_text, List.cons_inj_right, List.cons_inj_right] at hchars
  obtain ⟨hversion, hrest⟩ := Text.append_cons_inj ((isWord_version h.version).notMem (by decide))
    ((isWord_version h'.version).notMem (by decide)) hchars
  rw [String.toList_inj] at hversion
  rw [hversion, List.append_right_inj] at hrest
  have hpieces : w.pieces = w'.pieces :=
    Text.eq_of_intercalate_comma (List.map_eq_nil_iff.not.2 h.nonempty) (List.map_eq_nil_iff.not.2 h'.nonempty)
      (notMem_pieces h (by decide) (by decide)) (notMem_pieces h' (by decide) (by decide)) hrest
  exact Row.ext (congrArg ProjectVersion.mk hversion) (Entry.eq_of_map_toList_eq h.keys h'.keys hpieces)

end Row

/-! ## The line of a version -/

/-- The line of a version. -/
def rowFor (r : Registry) (v : ProjectVersion) : Row where
  version := v
  entries := (r.pluginsFor v).map fun p => ⟨p.key, (r.defaultFor v).map Plugin.key = some p.key⟩

/-- `w.Shows r`: what a line says of its version is what a registry holds of it. -/
structure Row.Shows (w : Row) (r : Registry) : Prop where
  /-- The keys are those of the candidates, in their order. -/
  keys : w.entries.map Entry.key = (r.pluginsFor w.version).map Plugin.key
  /-- No key comes twice. -/
  distinct : (w.entries.map Entry.key).Nodup
  /-- There is a key. -/
  nonempty : w.entries ≠ []
  /-- The key of the default is marked, and no other. -/
  mark : ∀ e ∈ w.entries, e.marked = true ↔ ∃ d, r.defaultFor w.version = some d ∧ d.key = e.key
  /-- There is one mark if there is a default, and none else. -/
  marks : w.marked = ((r.defaultFor w.version).map Plugin.key).toList

/-- The table has this line. -/
theorem text_rowFor (r : Registry) (v : ProjectVersion) : (rowFor r v).text ++ "\n" = tableLine r v := by
  have hentry : ∀ p : Plugin, Entry.text ⟨p.key, (r.defaultFor v).map Plugin.key = some p.key⟩ =
      tableEntry (r.defaultFor v) p := by
    intro p
    unfold Entry.text tableEntry Plugin.keyText
    by_cases hmark : (r.defaultFor v).map Plugin.key = some p.key
    · simp [hmark]
    · simp [hmark]
  unfold Row.text tableLine rowFor
  simp only [List.map_map, Function.comp_def, hentry]

section

variable {r : Registry} {v : ProjectVersion}

/-- **The keys on a line** are those of the plugins for its version, in their order. -/
theorem keys_rowFor : (rowFor r v).entries.map Entry.key = (r.pluginsFor v).map Plugin.key := by
  unfold rowFor
  rw [List.map_map]
  rfl

/-- The line of a version has an entry. -/
theorem nonempty_rowFor (h : v ∈ r.versions) : (rowFor r v).entries ≠ [] := by
  unfold rowFor
  exact List.map_eq_nil_iff.not.2 (Registry.mem_versions_iff.1 h)

/-- **The line of a version can be read,** in every registry that batches lead to. -/
theorem legible_rowFor {Offered : Plugin → Prop} (sound : r.Sound Offered) (h : v ∈ r.versions) :
    (rowFor r v).Legible := by
  have valid : ∀ p ∈ r.pluginsFor v, PluginName.validate p.name = .ok () ∧ p.version.number ≠ 0 ∧
      v.fault? = none := by
    intro p hp
    obtain ⟨-, hfault, hv⟩ := sound.of_mem_pluginsFor hp
    obtain ⟨hname, hnumber, hversions⟩ := Plugin.valid_of_fault? hfault
    exact ⟨hname, hnumber, hversions v hv⟩
  obtain ⟨p, hp⟩ := List.exists_mem_of_ne_nil _ (Registry.mem_versions_iff.1 h)
  refine ⟨(valid p hp).2.2, nonempty_rowFor h, ?_⟩
  intro e he
  obtain ⟨q, hq, rfl⟩ := List.mem_map.1 he
  obtain ⟨hname, hnumber, -⟩ := valid q hq
  refine ⟨hname, ?_⟩
  rintro w ⟨⟩
  exact hnumber

/-- **The mark is at the default.** -/
theorem mark_rowFor {e : Entry} (he : e ∈ (rowFor r v).entries) :
    e.marked = true ↔ ∃ d, r.defaultFor v = some d ∧ d.key = e.key := by
  obtain ⟨p, -, rfl⟩ := List.mem_map.1 he
  exact decide_eq_true_iff.trans Option.map_eq_some_iff

/-- **One key is marked if there is a default,** since that has the key of one candidate. -/
theorem marked_rowFor (distinct : r.DistinctKeys) :
    (rowFor r v).marked = ((r.defaultFor v).map Plugin.key).toList := by
  have hmarked : (rowFor r v).marked =
      ((r.pluginsFor v).map Plugin.key).filter fun k => (r.defaultFor v).map Plugin.key = some k := by
    unfold Row.marked rowFor
    rw [List.filter_map, List.filter_map, List.map_map]
    rfl
  rw [hmarked]
  rcases hd : r.defaultFor v with _ | d
  · simp
  · obtain ⟨p, hp, hkey⟩ := Registry.exists_mem_pluginsFor_of_defaultFor hd
    have hcount : ((r.pluginsFor v).map Plugin.key).count d.key = 1 :=
      List.count_eq_one_of_mem (distinct.keys_pluginsFor_nodup v) (List.mem_map.2 ⟨p, hp, hkey⟩)
    simp only [Option.map_some, Option.some.injEq, Option.toList_some, @eq_comm _ d.key]
    rw [List.filter_eq, hcount, List.replicate_one]

/-- **The line of a version shows it.** -/
theorem shows_rowFor (distinct : r.DistinctKeys) (h : v ∈ r.versions) : (rowFor r v).Shows r where
  keys := keys_rowFor
  distinct := by
    rw [keys_rowFor]
    exact distinct.keys_pluginsFor_nodup v
  nonempty := nonempty_rowFor h
  mark := fun _ => mark_rowFor
  marks := marked_rowFor distinct

end

/-! ## The table -/

/-- The heading of the table. -/
def heading : String := "Available plugins by project version:"

/-- **Cut at its line ends, the table is the heading and the lines of the versions,** with nothing behind the
last line end. -/
theorem splitOn_pluginTable {r : Registry} (legible : ∀ v ∈ r.versions, (rowFor r v).Legible) :
    (pluginTable r).toList.splitOn '\n' =
      (heading :: r.versions.map fun v => (rowFor r v).text).map String.toList ++ [[]] := by
  have htable : (pluginTable r).toList =
      ((heading :: r.versions.map fun v => (rowFor r v).text).map String.toList).flatMap fun l =>
        l ++ ['\n'] := by
    have hlines : tableLine r = fun v => (rowFor r v).text ++ "\n" :=
      funext fun v => (text_rowFor r v).symm
    unfold pluginTable heading
    rw [hlines]
    simp [List.flatMap_map]
  rw [htable]
  apply Text.splitOn_lines
  intro l hl
  rw [List.map_cons, List.map_map] at hl
  rcases List.mem_cons.1 hl with rfl | hl
  · decide
  · obtain ⟨v, hv, rfl⟩ := List.mem_map.1 hl
    exact Row.lineEnd_notMem_text (legible v hv)

/-! ## Main result -/

/-- **What the table of plugins says,** where all batches were accepted.

1. Cut at its line ends, the table is the heading and one line for each version, in the order of the versions.
2. The line of a version shows the keys of its candidates, each once and in their order, and at least one.
   The key of the default is marked, also where a plain plugin of the same key stands in the stead of the
   default. So there is one mark if the version has a default, and none else.
3. Every line can be read, and in no other way. -/
theorem pluginTable_shows {bs : List Batch} {r : Registry}
    (registered : Registry.registerAll {} bs = .ok r) :
    ∃ rows : List Row,
      (pluginTable r).toList.splitOn '\n' =
        (heading :: rows.map Row.text).map String.toList ++ [[]] ∧
      rows.map Row.version = r.versions ∧
      ∀ w ∈ rows, w.Shows r ∧ w.Legible ∧
        ∀ other : Row, other.Legible → other.text = w.text → other = w := by
  obtain ⟨rfl, accepted⟩ := Registry.afterAll_of_registerAll registered
  have sound := Registry.sound_afterAll bs
  have distinct := Registry.distinctKeys_empty.afterAll accepted
  have legible := fun v hv => legible_rowFor (v := v) sound hv
  refine ⟨(Registry.afterAll {} bs).versions.map (rowFor (Registry.afterAll {} bs)), ?_, ?_, ?_⟩
  · rw [splitOn_pluginTable legible, List.map_map]
    rfl
  · rw [List.map_map]
    exact List.map_id _
  · intro w hw
    obtain ⟨v, hv, rfl⟩ := List.mem_map.1 hw
    refine ⟨shows_rowFor distinct hv, legible v hv, ?_⟩
    intro other hlegible htext
    exact Row.eq_of_text_eq hlegible (legible v hv) htext

/-- A layout whose default is a plugin of its own, a default that is no plain plugin, and a plain plugin of a
version without default. -/
def sampleBatches : List Batch :=
  [⟨[GoLayout.v2, { GoLayout.v3Alpha with projectVersions := [⟨"3-alpha"⟩, ⟨"5-beta"⟩] }], false⟩,
    ⟨[{ GoLayout.v2 with serial := 1 }, { GoLayout.v3Alpha with projectVersions := [⟨"4"⟩] }], true⟩]

/-- Each of the versions with a default has one key marked, and the version without a default has none. -/
theorem pluginTable_shows_sample :
    ∃ (r : Registry) (rows : List Row), Registry.registerAll {} sampleBatches = .ok r ∧
      (pluginTable r).toList.splitOn '\n' =
        (heading :: rows.map Row.text).map String.toList ++ [[]] ∧
      rows.map Row.version = [⟨"2"⟩, ⟨"3-alpha"⟩, ⟨"4"⟩, ⟨"5-beta"⟩] ∧
      rows.map Row.marked =
        [[GoLayout.v2.key], [GoLayout.v2.key], [GoLayout.v3Alpha.key], []] := by
  obtain ⟨r, registered⟩ : ∃ r, Registry.registerAll {} sampleBatches = .ok r := ⟨_, rfl⟩
  obtain ⟨rows, hlines, hversions, hrows⟩ := pluginTable_shows registered
  have hmarked : rows.map Row.marked =
      (rows.map Row.version).map fun v => ((r.defaultFor v).map Plugin.key).toList := by
    rw [List.map_map]
    exact List.map_congr_left fun w hw => (hrows w hw).1.marks
  rw [hversions] at hmarked
  obtain ⟨rfl, -⟩ := Registry.afterAll_of_registerAll registered
  exact ⟨_, rows, registered, hlines, hversions, hmarked⟩

example :
    pluginTable (Registry.afterAll {} [⟨[GoLayout.v2, GoLayout.v3Alpha], false⟩, ⟨[GoLayout.v2], true⟩]) =
      "Available plugins by project version:\n" ++
      "  2          go.scaffold.dev/v2 (default)\n" ++
      "  3-alpha    go.scaffold.dev/v2 (default), go.scaffold.dev/v3-alpha\n" := rfl

end Scaffolder.CommandTree
