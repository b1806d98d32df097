import Scaffolder.Proofs.Selection

/-!
# The two attempts at a key

A key is matched against the default of a version alone, and then against all candidates. What the
first attempt adds to the second one.

* **One match** (`ofKey_eq_ofFitting`): what a key gives among candidates hangs on those that it fits:
  none, one, or several (`ofFitting`).
* **Where the default does not fit** (`ofVersionKey_of_default_unfit`) the second attempt decides, and
  its error is the one that is reported.
* **Where the default fits** (`ofVersionKey_of_default`) it is selected. The second attempt has then
  found a plugin of the same key or several plugins, but not none
  (`exists_mem_pluginsFor_of_defaultFor`).
* **Ambiguity** (`version_eq_empty_of_several`): only a key without a version part can fit several
  candidates, since those of one name and version are the same.

`select_wide` says how the selection compares with a match against all candidates.
-/

namespace Scaffolder

/-! ## Keys of several plugins -/

namespace Plugin

/-- Plugins without a fault have the same key if their keys have the same text. -/
theorem key_eq_of_keyText {p q : Plugin} (hp : p.fault? = none) (hq : q.fault? = none)
    (h : p.keyText = q.keyText) : p.key = q.key := by
  have hsplit := splitKey_keyText hp
  rw [h, splitKey_keyText hq] at hsplit
  obtain ⟨hname, hversion⟩ := Prod.mk.inj hsplit
  rw [key_eq_iff]
  refine ⟨hname.symm, ?_⟩
  exact PluginVersion.text_injective (valid_of_fault? hp).2.1 (valid_of_fault? hq).2.1 hversion.symm

end Plugin

namespace Selection

/-! ## One match -/

/-- What comes of a key that fits these candidates. -/
def ofFitting (key : String) : List Plugin → Except SelectError Selection
  | [] => .error (.noMatch key)
  | [p] => .ok (single p)
  | many => .error (.ambiguous key (many.map Plugin.keyText))

/-- **A key with a name gives what the candidates give that it fits.** -/
theorem ofKey_eq_ofFitting {candidates : List Plugin} {key : String} (h : (splitKey key).1 ≠ "") :
    ofKey candidates key =
      ofFitting key (candidates.filter (fits (splitKey key).1 (splitKey key).2)) := by
  unfold ofKey
  rcases hkey : splitKey key with ⟨name, version⟩
  rw [hkey] at h
  have hne : name.isEmpty = false := by simpa using h
  simp only [hne, Bool.false_eq_true, ↓reduceIte]
  rfl

/-- A key without a name gives an error of its own. -/
theorem ofKey_of_no_name {candidates : List Plugin} {key : String} (h : (splitKey key).1 = "") :
    ofKey candidates key = .error (.emptyName key) := by
  unfold ofKey
  rcases hkey : splitKey key with ⟨name, version⟩
  rw [hkey] at h
  obtain rfl : name = "" := h
  rfl

/-- A key is ambiguous if two plugins fit it, and then all that do are named. -/
theorem ofFitting_eq_ambiguous_iff {key k : String} {fitting : List Plugin} {texts : List String} :
    ofFitting key fitting = .error (.ambiguous k texts) ↔
      k = key ∧ 2 ≤ fitting.length ∧ texts = fitting.map Plugin.keyText := by
  rcases fitting with _ | ⟨p, _ | ⟨q, rest⟩⟩
  · simp [ofFitting]
  · simp [ofFitting]
  · simp [ofFitting, eq_comm]

/-- **A key is ambiguous** if it has a name and fits at least two candidates, whose keys are then
listed. -/
theorem ofKey_eq_ambiguous_iff {candidates : List Plugin} {key k : String} {texts : List String} :
    ofKey candidates key = .error (.ambiguous k texts) ↔
      k = key ∧ (splitKey key).1 ≠ "" ∧
        2 ≤ (candidates.filter (fits (splitKey key).1 (splitKey key).2)).length ∧
        texts = (candidates.filter (fits (splitKey key).1 (splitKey key).2)).map Plugin.keyText := by
  by_cases h : (splitKey key).1 = ""
  · simp [ofKey_of_no_name h, h]
  · rw [ofKey_eq_ofFitting h, ofFitting_eq_ambiguous_iff]
    simp [h]

/-- A match that fails where some candidate fits fails since several do. -/
theorem ambiguous_of_error {candidates : List Plugin} {key : String} {e : SelectError} {p : Plugin}
    (hname : (splitKey key).1 ≠ "") (hp : p ∈ candidates)
    (hfit : fits (splitKey key).1 (splitKey key).2 p = true)
    (failed : ofKey candidates key = .error e) : ∃ texts, e = .ambiguous key texts := by
  have found : p ∈ candidates.filter (fits (splitKey key).1 (splitKey key).2) :=
    List.mem_filter.2 ⟨hp, hfit⟩
  rw [ofKey_eq_ofFitting hname] at failed
  rcases h : candidates.filter (fits (splitKey key).1 (splitKey key).2) with _ | ⟨q, _ | ⟨q', rest⟩⟩
  · rw [h] at found
    exact absurd found List.not_mem_nil
  · simp [h, ofFitting] at failed
  · rw [h] at failed
    exact ⟨_, (Except.error.inj failed).symm⟩

/-! ## The first attempt -/

/-- Where the default does not fit, all candidates decide. -/
theorem ofVersionKey_of_default_unfit {r : Registry} {v : ProjectVersion} {key : String}
    (unfit : ∀ d, r.defaultFor v = some d → fits (splitKey key).1 (splitKey key).2 d = false) :
    ofVersionKey r v key = ofKey (r.pluginsFor v) key := by
  unfold ofVersionKey
  rcases hnarrow : ofKey (r.defaultFor v).toList key with e | s
  · rfl
  · obtain ⟨-, d, hd, hfit, -⟩ := ofKey_toList_eq_ok_iff.1 hnarrow
    rw [unfit d hd] at hfit
    exact absurd hfit Bool.false_ne_true

section

variable {Offered : Plugin → Prop} {r : Registry} (sound : r.Sound Offered)
  {v : ProjectVersion} {key : String}

include sound

/-- **Either the default fits, or all candidates decide.** A key that fits a default has a name, and
fits a candidate as well. -/
theorem ofVersionKey_attempts :
    (∃ d, r.defaultFor v = some d ∧ fits (splitKey key).1 (splitKey key).2 d = true ∧
        ofVersionKey r v key = .ok (single d) ∧ (splitKey key).1 ≠ "" ∧
        ∃ p ∈ r.pluginsFor v, p.key = d.key ∧ fits (splitKey key).1 (splitKey key).2 p = true) ∨
      ((∀ d, r.defaultFor v = some d → fits (splitKey key).1 (splitKey key).2 d = false) ∧
        ofVersionKey r v key = ofKey (r.pluginsFor v) key) := by
  by_cases unfit : ∀ d, r.defaultFor v = some d → fits (splitKey key).1 (splitKey key).2 d = false
  · exact .inr ⟨unfit, ofVersionKey_of_default_unfit unfit⟩
  · obtain ⟨d, hd, hfit⟩ :
        ∃ d, r.defaultFor v = some d ∧ fits (splitKey key).1 (splitKey key).2 d = true := by
      simpa using unfit
    have hname : (splitKey key).1 ≠ "" := by
      rw [← (fits_iff.1 hfit).1]
      exact Plugin.name_ne_empty (sound.of_defaultFor hd).2.1
    obtain ⟨p, hp, hkey⟩ := Registry.exists_mem_pluginsFor_of_defaultFor hd
    refine .inl ⟨d, hd, hfit, ofVersionKey_of_default hname hd hfit, hname, p, hp, hkey, ?_⟩
    rw [fits_congr hkey, hfit]

/-- **What all candidates give, the selection gives,** up to which plugin stands for a key. -/
theorem exists_of_wide_ok {p : Plugin} (wide : ofKey (r.pluginsFor v) key = .ok (single p)) :
    ∃ p', ofVersionKey r v key = .ok (single p') ∧ p'.key = p.key := by
  rcases ofVersionKey_attempts sound with ⟨d, -, -, hselect, -, q, hq, hkey, hfit⟩ | ⟨-, hselect⟩
  · obtain ⟨-, p', hfilter, hp'⟩ := ofKey_eq_ok_iff.1 wide
    obtain rfl := single_inj.1 hp'
    -- the candidate with the key of the default is the one that was found
    have found := List.mem_filter.2 ⟨hq, hfit⟩
    rw [hfilter, List.mem_singleton] at found
    exact ⟨d, hselect, by rw [← hkey, found]⟩
  · exact ⟨p, by rw [hselect, wide], rfl⟩

/-- **A selection fails** if the default does not fit and all candidates fail, and it reports their
error. -/
theorem ofVersionKey_eq_error_iff {e : SelectError} :
    ofVersionKey r v key = .error e ↔
      (∀ d, r.defaultFor v = some d → fits (splitKey key).1 (splitKey key).2 d = false) ∧
        ofKey (r.pluginsFor v) key = .error e := by
  rcases ofVersionKey_attempts sound with ⟨d, hd, hfit, hselect, -⟩ | ⟨unfit, hselect⟩
  · rw [hselect]
    constructor
    · intro h
      cases h
    · rintro ⟨unfit, -⟩
      rw [unfit d hd] at hfit
      exact absurd hfit Bool.false_ne_true
  · rw [hselect, and_iff_right unfit]

/-- **The first attempt helps against ambiguity alone.** Where a selection succeeds and all candidates
fail, several of them fit, and the default is selected. -/
theorem default_of_wide_error {s : Selection} {e : SelectError}
    (selected : ofVersionKey r v key = .ok s) (wide : ofKey (r.pluginsFor v) key = .error e) :
    ∃ texts d, e = .ambiguous key texts ∧ r.defaultFor v = some d ∧ s = single d := by
  rcases ofVersionKey_attempts sound with ⟨d, hd, -, hselect, hname, p, hp, -, hfit⟩ | ⟨-, hselect⟩
  · obtain ⟨texts, he⟩ := ambiguous_of_error hname hp hfit wide
    rw [hselect] at selected
    exact ⟨texts, d, he, hd, (Except.ok.inj selected).symm⟩
  · rw [hselect, wide] at selected
    cases selected

/-! ## Ambiguity -/

variable (distinct : r.DistinctKeys)

include distinct

/-- **A key with a version part fits one candidate at most.** -/
theorem version_eq_empty_of_several {name version : String}
    (several : 2 ≤ ((r.pluginsFor v).filter (fits name version)).length) : version = "" := by
  by_contra hversion
  have nodup : ((r.pluginsFor v).filter (fits name version)).Nodup :=
    (List.Nodup.of_map Plugin.key (distinct.keys_pluginsFor_nodup v)).filter _
  have same : ∀ p ∈ (r.pluginsFor v).filter (fits name version),
      p ∈ r.pluginsFor v ∧ p.name = name ∧ p.version.text = version ∧ p.version.number ≠ 0 := by
    intro p hp
    obtain ⟨hmem, hfit⟩ := List.mem_filter.1 hp
    obtain ⟨hname, htext⟩ := fits_iff.1 hfit
    have valid := Plugin.valid_of_fault? (sound.of_mem_pluginsFor hmem).2.1
    exact ⟨hmem, hname, htext.resolve_left hversion, valid.2.1⟩
  rcases hfilter : (r.pluginsFor v).filter (fits name version) with _ | ⟨p, _ | ⟨q, rest⟩⟩
  · simp [hfilter] at several
  · simp [hfilter] at several
  · rw [hfilter] at same nodup
    obtain ⟨hp, hname, htext, hpos⟩ := same p (by simp)
    obtain ⟨hq, hname', htext', hpos'⟩ := same q (by simp)
    have hkey : p.key = q.key := by
      rw [Plugin.key_eq_iff, hname, hname']
      exact ⟨rfl, PluginVersion.text_injective hpos hpos' (htext.trans htext'.symm)⟩
    have heq := distinct.eq_of_key_eq hp hq hkey
    simp [heq] at nodup

/-- The texts of the keys of some candidates are distinct. -/
theorem keyTexts_nodup (p : Plugin → Bool) :
    (((r.pluginsFor v).filter p).map Plugin.keyText).Nodup := by
  have nodup := List.Nodup.of_map Plugin.key (distinct.keys_pluginsFor_nodup v)
  refine (nodup.filter p).map_on ?_
  intro q hq q' hq' htext
  have hmem := (List.mem_filter.1 hq).1
  have hmem' := (List.mem_filter.1 hq').1
  apply distinct.eq_of_key_eq hmem hmem'
  exact Plugin.key_eq_of_keyText (sound.of_mem_pluginsFor hmem).2.1
    (sound.of_mem_pluginsFor hmem').2.1 htext

/-- **Where a selection is ambiguous,** the key has no version part, the default has another name, and
at least two candidates have the name of the key. Their keys are listed, each once. -/
theorem of_ambiguous {k : String} {texts : List String}
    (h : ofVersionKey r v key = .error (.ambiguous k texts)) :
    k = key ∧ (splitKey key).2 = "" ∧
      (∀ d, r.defaultFor v = some d → d.name ≠ (splitKey key).1) ∧
      2 ≤ ((r.pluginsFor v).filter fun p => p.name = (splitKey key).1).length ∧
      texts = ((r.pluginsFor v).filter fun p => p.name = (splitKey key).1).map Plugin.keyText ∧
      texts.Nodup := by
  obtain ⟨unfit, wide⟩ := (ofVersionKey_eq_error_iff sound).1 h
  obtain ⟨hk, -, several, htexts⟩ := ofKey_eq_ambiguous_iff.1 wide
  have hversion := version_eq_empty_of_several sound distinct several
  have hfits : fits (splitKey key).1 (splitKey key).2 = fun p => decide (p.name = (splitKey key).1) := by
    funext p
    rw [hversion, Bool.eq_iff_iff, fits_iff]
    simp
  rw [hfits] at several htexts unfit
  refine ⟨hk, hversion, ?_, several, htexts, ?_⟩
  · intro d hd
    simpa using unfit d hd
  · rw [htexts]
    exact keyTexts_nodup sound distinct _

end

end Selection

/-! ## Main result -/

namespace Request

/-- A layout that is blank is missing. -/
theorem select_of_blank_layout {q : Request} (r : Registry) (h : q.governingKey? = some "") :
    q.select r = .error (.missingLayout q.version) := by
  unfold governingKey? at h
  unfold select
  by_cases hkey : q.hasKey = true
  · rw [if_pos hkey] at h
    exact absurd (Option.some.inj h) (hasKey_iff.1 hkey)
  · rw [if_neg hkey] at h ⊢
    rw [h]
    rfl

/-- **How the selection by a key compares with a match against all candidates,** where the plain
batches were accepted. The key may be that of the command line or, without one, a layout.

1. A request is served by the two attempts at the key that governs it; a blank layout is no key.
2. Where all candidates give a plugin, a plugin of the same key is selected.
3. The selection fails exactly if the default does not fit and all candidates fail, with their error.
4. Where it succeeds and all candidates fail, they are ambiguous, and the default is selected.
5. Where it is ambiguous, the key has no version part and its name is that of at least two candidates
   but not of the default. The keys of these candidates are listed in their order, each once.
6. So no key with a version part is ambiguous, also among all candidates. -/
theorem select_wide {bs : List Batch} (accepted : Registry.PlainAccepted {} bs) {r : Registry}
    (reached : r = Registry.afterAll {} bs) (v : ProjectVersion) (key : String) :
    (∀ q : Request, q.version = v → q.governingKey? = some key →
      q.select r =
        if key = "" then .error (.missingLayout v) else Selection.ofVersionKey r v key) ∧
    (∀ p, Selection.ofKey (r.pluginsFor v) key = .ok (.single p) →
      ∃ p', Selection.ofVersionKey r v key = .ok (.single p') ∧ p'.key = p.key) ∧
    (∀ e, Selection.ofVersionKey r v key = .error e ↔
      (∀ d, r.defaultFor v = some d →
        Selection.fits (splitKey key).1 (splitKey key).2 d = false) ∧
      Selection.ofKey (r.pluginsFor v) key = .error e) ∧
    (∀ s e, Selection.ofVersionKey r v key = .ok s →
      Selection.ofKey (r.pluginsFor v) key = .error e →
        ∃ texts d, e = .ambiguous key texts ∧ r.defaultFor v = some d ∧ s = .single d) ∧
    (∀ k texts, Selection.ofVersionKey r v key = .error (.ambiguous k texts) →
      k = key ∧ (splitKey key).2 = "" ∧
        (∀ d, r.defaultFor v = some d → d.name ≠ (splitKey key).1) ∧
        2 ≤ ((r.pluginsFor v).filter fun p => p.name = (splitKey key).1).length ∧
        texts = ((r.pluginsFor v).filter fun p => p.name = (splitKey key).1).map Plugin.keyText ∧
        texts.Nodup) ∧
    ((splitKey key).2 ≠ "" → ∀ k texts,
      Selection.ofVersionKey r v key ≠ .error (.ambiguous k texts) ∧
        Selection.ofKey (r.pluginsFor v) key ≠ .error (.ambiguous k texts)) := by
  subst reached
  have sound := Registry.sound_afterAll bs
  have distinct := Registry.distinctKeys_empty.afterAll accepted
  refine ⟨?_, ?_, ?_, ?_, ?_, ?_⟩
  · rintro q rfl governed
    split_ifs with hne
    · rw [hne] at governed
      exact select_of_blank_layout _ governed
    · exact select_of_governingKey? governed hne
  · intro p wide
    exact Selection.exists_of_wide_ok sound wide
  · intro e
    exact Selection.ofVersionKey_eq_error_iff sound
  · intro s e selected wide
    exact Selection.default_of_wide_error sound selected wide
  · intro k texts ambiguous
    exact Selection.of_ambiguous sound distinct ambiguous
  · intro hversion k texts
    constructor
    · intro ambiguous
      exact hversion (Selection.of_ambiguous sound distinct ambiguous).2.1
    · intro ambiguous
      obtain ⟨-, -, several, -⟩ := Selection.ofKey_eq_ambiguous_iff.1 ambiguous
      exact hversion (Selection.version_eq_empty_of_several sound distinct several)

/-- The name of the two layouts is ambiguous among all candidates, and means the default. -/
theorem select_wide_twin :
    Registry.PlainAccepted {} twinBatches ∧
      ∃ d texts, Selection.ofVersionKey (Registry.afterAll {} twinBatches) ⟨"3-alpha"⟩
          "go.scaffold.dev" = .ok (.single d) ∧
        Selection.ofKey ((Registry.afterAll {} twinBatches).pluginsFor ⟨"3-alpha"⟩)
          "go.scaffold.dev" = .error (.ambiguous "go.scaffold.dev" texts) ∧
        (Registry.afterAll {} twinBatches).defaultFor ⟨"3-alpha"⟩ = some d := by
  have accepted : Registry.PlainAccepted {} twinBatches := by
    refine ⟨fun _ => ?_, fun _ => ?_, trivial⟩
    · rfl
    · rfl
  obtain ⟨s, selected⟩ := exists_eq_ok (x := Selection.ofVersionKey
    (Registry.afterAll {} twinBatches) ⟨"3-alpha"⟩ "go.scaffold.dev") (by decide)
  have wide : ∃ e, Selection.ofKey ((Registry.afterAll {} twinBatches).pluginsFor ⟨"3-alpha"⟩)
      "go.scaffold.dev" = .error e := ⟨_, rfl⟩
  obtain ⟨e, wide⟩ := wide
  obtain ⟨-, -, -, onlyAmbiguous, -⟩ := select_wide accepted rfl ⟨"3-alpha"⟩ "go.scaffold.dev"
  obtain ⟨texts, d, rfl, hd, rfl⟩ := onlyAmbiguous s e selected wide
  exact ⟨accepted, d, texts, selected, wide, hd⟩

end Request

end Scaffolder
