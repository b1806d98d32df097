import Scaffolder.GoLayout
import Scaffolder.Proofs.PluginKey
import Scaffolder.Proofs.Registry
import Scaffolder.Resolution.Gate
import Scaffolder.Resolution.Selection

/-!
# Which plugin is selected

What a successful selection says about the plugin, and how a plugin is selected by its own key.

* **Compatible** (`select_compatible`): whatever batches were registered, and however many of them
  were refused, the selection is one plugin that was offered, is valid, supports the version that is
  asked for, and has the name and the version that the key asks for.
* **Stable** (`select_keyText`): where the plain batches were accepted, a plugin that was selected
  is selected again by the text of its own key, be it on the command line or as a layout.
* **The gate does not stand in the way** (`gate_of_select`): a request for which a plugin can be
  selected passes the checks before the selection.

A key is matched in two attempts, so the proofs go through `ofVersionKey_cases`: either the default
matches, or it does not and exactly one candidate does.
-/

namespace Scaffolder

/-- What is no error is the answer of a success. -/
theorem exists_eq_ok {ε α : Type} {x : Except ε α} (h : x.isOk = true) : ∃ a, x = .ok a := by
  cases x with
  | error e => cases h
  | ok a => exact ⟨a, rfl⟩

/-! ## A plugin and its key -/

namespace Plugin

/-- The text of a plugin's key is not empty. -/
theorem keyText_ne_empty (p : Plugin) : p.keyText ≠ "" := by
  intro h
  have hlist : (p.name ++ "/" ++ p.version.text).toList = "".toList := congrArg String.toList h
  simp at hlist

/-- The key of a plugin without a fault is cut into the plugin's name and version. -/
theorem splitKey_keyText {p : Plugin} (h : p.fault? = none) :
    splitKey p.keyText = (p.name, p.version.text) :=
  PluginKey.splitKey_text (valid_of_fault? h).1 p.version

/-- The key of a valid plugin has no blanks around it. -/
theorem trim_keyText {p : Plugin} (h : p.fault? = none) : Text.trim p.keyText = p.keyText :=
  PluginKey.trim_text (valid_of_fault? h).1 p.version

/-- A valid plugin has a name. -/
theorem name_ne_empty {p : Plugin} (h : p.fault? = none) : p.name ≠ "" :=
  PluginName.ne_empty_of_validate (valid_of_fault? h).1

/-- Two plugins have one key if they have one name and one version. -/
theorem key_eq_iff {p q : Plugin} : p.key = q.key ↔ p.name = q.name ∧ p.version = q.version := by
  unfold key
  rw [PluginKey.mk.injEq, Option.some.injEq]

end Plugin

/-! ## Matching a key -/

namespace Selection

/-- A selection of one plugin tells the plugin. -/
theorem single_inj {p q : Plugin} : single p = single q ↔ p = q := by
  unfold single
  rw [Selection.mk.injEq, List.cons.injEq]
  exact and_iff_left rfl

/-- A plugin fits a key that names it, with its version or without one. -/
theorem fits_iff {name version : String} {p : Plugin} :
    fits name version p = true ↔ p.name = name ∧ (version = "" ∨ p.version.text = version) := by
  unfold fits
  rw [Bool.and_eq_true, Bool.or_eq_true, beq_iff_eq, beq_iff_eq, String.isEmpty_iff]

/-- Among plugins without a fault, the name and version of one fit those that have its key. -/
theorem fits_own_iff {p q : Plugin} (hp : p.fault? = none) (hq : q.fault? = none) :
    fits p.name p.version.text q = true ↔ q.key = p.key := by
  have hpos := (Plugin.valid_of_fault? hp).2.1
  have hpos' := (Plugin.valid_of_fault? hq).2.1
  rw [fits_iff, Plugin.key_eq_iff]
  constructor
  · rintro ⟨hname, hempty | htext⟩
    · exact absurd hempty p.version.text_ne_empty
    · exact ⟨hname, PluginVersion.text_injective hpos' hpos htext⟩
  · rintro ⟨hname, hversion⟩
    exact ⟨hname, .inr (by rw [hversion])⟩

/-- Whether a key fits a plugin depends on the plugin's key alone. -/
theorem fits_congr {p q : Plugin} (h : p.key = q.key) (name version : String) :
    fits name version p = fits name version q := by
  obtain ⟨hname, hversion⟩ := Plugin.key_eq_iff.1 h
  unfold fits
  rw [hname, hversion]

/-- **A key selects among candidates** if it has a name and exactly one of them fits. -/
theorem ofKey_eq_ok_iff {candidates : List Plugin} {key : String} {s : Selection} :
    ofKey candidates key = .ok s ↔
      (splitKey key).1 ≠ "" ∧
        ∃ p, candidates.filter (fits (splitKey key).1 (splitKey key).2) = [p] ∧ s = single p := by
  unfold ofKey
  obtain ⟨name, version⟩ := splitKey key
  simp only
  by_cases hname : name = ""
  · simp [hname]
  · have hne : name.isEmpty = false := by simpa using hname
    simp only [hne, Bool.false_eq_true, ↓reduceIte]
    constructor
    · intro h
      split at h
      · cases h
      · rename_i p hfilter
        exact ⟨hname, p, hfilter, (Except.ok.inj h).symm⟩
      · cases h
    · rintro ⟨_, p, hfilter, rfl⟩
      rw [hfilter]

/-- A key selects the default if there is one and it fits. -/
theorem ofKey_toList_eq_ok_iff {default : Option Plugin} {key : String} {s : Selection} :
    ofKey default.toList key = .ok s ↔
      (splitKey key).1 ≠ "" ∧
        ∃ p, default = some p ∧ fits (splitKey key).1 (splitKey key).2 p = true ∧ s = single p := by
  rw [ofKey_eq_ok_iff]
  refine and_congr_right fun _ => exists_congr fun p => ?_
  cases default with
  | none => simp
  | some d =>
    rw [← and_assoc]
    refine and_congr_left fun _ => ?_
    cases hfit : fits (splitKey key).1 (splitKey key).2 d with
    | false =>
      simp only [Option.toList_some, List.filter_cons, hfit, Bool.false_eq_true, ↓reduceIte,
        List.filter_nil, Option.some.injEq]
      refine ⟨by simp, ?_⟩
      rintro ⟨rfl, h⟩
      rw [hfit] at h
      exact absurd h Bool.false_ne_true
    | true =>
      simp only [Option.toList_some, List.filter_cons, hfit, ↓reduceIte, List.filter_nil,
        List.cons.injEq, and_true, Option.some.injEq]
      constructor
      · rintro rfl
        exact ⟨rfl, hfit⟩
      · rintro ⟨rfl, _⟩
        rfl

/-- **The two attempts at a key.** A selected plugin fits the key; it is the default, or it is a
candidate, the default does not fit, and no other candidate does. -/
theorem ofVersionKey_cases {r : Registry} {v : ProjectVersion} {key : String} {s : Selection}
    (h : ofVersionKey r v key = .ok s) :
    ∃ p, s = single p ∧ fits (splitKey key).1 (splitKey key).2 p = true ∧
      (r.defaultFor v = some p ∨
        p ∈ r.pluginsFor v ∧
          ∀ d, r.defaultFor v = some d → fits (splitKey key).1 (splitKey key).2 d = false) := by
  unfold ofVersionKey at h
  split at h
  · rename_i s' hnarrow
    obtain ⟨_, p, hd, hfit, rfl⟩ := ofKey_toList_eq_ok_iff.1 hnarrow
    exact ⟨p, (Except.ok.inj h).symm, hfit, .inl hd⟩
  · rename_i e hnarrow
    obtain ⟨hname, p, hfilter, rfl⟩ := ofKey_eq_ok_iff.1 h
    have hp : p ∈ (r.pluginsFor v).filter (fits (splitKey key).1 (splitKey key).2) := by
      rw [hfilter]
      exact List.mem_singleton_self p
    obtain ⟨hmem, hfit⟩ := List.mem_filter.1 hp
    refine ⟨p, rfl, hfit, .inr ⟨hmem, ?_⟩⟩
    intro d hd
    by_contra hfit'
    rw [Bool.not_eq_false] at hfit'
    -- else the first attempt would have found the default
    have hfound := ofKey_toList_eq_ok_iff.2 ⟨hname, d, hd, hfit', rfl⟩
    rw [hnarrow] at hfound
    cases hfound

/-- The default is selected by a key that fits it. -/
theorem ofVersionKey_of_default {r : Registry} {v : ProjectVersion} {key : String} {p : Plugin}
    (hname : (splitKey key).1 ≠ "") (hd : r.defaultFor v = some p)
    (hfit : fits (splitKey key).1 (splitKey key).2 p = true) :
    ofVersionKey r v key = .ok (single p) := by
  have hnarrow := ofKey_toList_eq_ok_iff.2 ⟨hname, p, hd, hfit, rfl⟩
  unfold ofVersionKey
  rw [hnarrow]

/-- **A default is selected by its own key.** -/
theorem ofVersionKey_keyText_default {r : Registry} {v : ProjectVersion} {p : Plugin}
    (valid : p.fault? = none) (hd : r.defaultFor v = some p) :
    ofVersionKey r v p.keyText = .ok (single p) := by
  have hsplit := Plugin.splitKey_keyText valid
  refine ofVersionKey_of_default ?_ hd ?_
  · rw [hsplit]
    exact Plugin.name_ne_empty valid
  · rw [hsplit]
    exact (fits_own_iff valid valid).2 rfl

section

variable {Offered : Plugin → Prop} {r : Registry} (sound : r.Sound Offered)
  (distinct : r.DistinctKeys)

include sound distinct

/-- The candidates that the key of one of them fits are that one alone. -/
theorem filter_fits_own {v : ProjectVersion} {p : Plugin} (hp : p ∈ r.pluginsFor v) :
    (r.pluginsFor v).filter (fits p.name p.version.text) = [p] := by
  have valid := (sound.of_mem_pluginsFor hp).2.1
  have hcount : ((r.pluginsFor v).filter (fits p.name p.version.text)).Nodup :=
    (List.Nodup.of_map Plugin.key (distinct.keys_pluginsFor_nodup v)).filter _
  refine ((List.perm_ext_iff_of_nodup hcount (List.nodup_singleton p)).2 ?_).eq_singleton
  intro q
  rw [List.mem_filter, List.mem_singleton]
  constructor
  · rintro ⟨hmem, hfit⟩
    have valid' := (sound.of_mem_pluginsFor hmem).2.1
    exact distinct.eq_of_key_eq hmem hp ((fits_own_iff valid valid').1 hfit)
  · rintro rfl
    exact ⟨hp, (fits_own_iff valid valid).2 rfl⟩

/-- **A candidate is selected by its own key** unless the default is another plugin of that key. -/
theorem ofVersionKey_keyText {v : ProjectVersion} {p : Plugin} (hp : p ∈ r.pluginsFor v)
    (hd : ∀ d, r.defaultFor v = some d → d.key ≠ p.key) :
    ofVersionKey r v p.keyText = .ok (single p) := by
  have valid := (sound.of_mem_pluginsFor hp).2.1
  have hsplit := Plugin.splitKey_keyText valid
  have hwide : ofKey (r.pluginsFor v) p.keyText = .ok (single p) := by
    refine ofKey_eq_ok_iff.2 ⟨?_, p, ?_, rfl⟩
    · rw [hsplit]
      exact Plugin.name_ne_empty valid
    · rw [hsplit]
      exact filter_fits_own sound distinct hp
  unfold ofVersionKey
  cases hnarrow : ofKey (r.defaultFor v).toList p.keyText with
  | ok s =>
    obtain ⟨_, d, hdef, hfit, _⟩ := ofKey_toList_eq_ok_iff.1 hnarrow
    rw [hsplit] at hfit
    have valid' := (sound.of_defaultFor hdef).2.1
    exact absurd ((fits_own_iff valid valid').1 hfit) (hd d hdef)
  | error e => exact hwide

/-- **A plugin that a key has selected is selected again by its own key.** A default of that key is
no obstacle: it would have been found by the first attempt already. -/
theorem ofVersionKey_keyText_of_selected {v : ProjectVersion} {key : String} {p : Plugin}
    (h : ofVersionKey r v key = .ok (single p)) : ofVersionKey r v p.keyText = .ok (single p) := by
  obtain ⟨q, hq, hfit, hcase⟩ := ofVersionKey_cases h
  obtain rfl := single_inj.1 hq
  rcases hcase with hd | ⟨hmem, hd⟩
  · exact ofVersionKey_keyText_default (sound.of_defaultFor hd).2.1 hd
  · apply ofVersionKey_keyText sound distinct hmem
    intro d hdef hkey
    have := hd d hdef
    rw [fits_congr hkey, hfit] at this
    exact absurd this.symm Bool.false_ne_true

end

end Selection

/-! ## Requests -/

namespace Request

/-- The key that governs a request: that of the command line, else the layout of its project. -/
def governingKey? (q : Request) : Option String :=
  if q.hasKey then some q.key else q.layout?

/-- A request has a key unless it is blank. -/
theorem hasKey_iff {q : Request} : q.hasKey = true ↔ q.key ≠ "" := by
  unfold hasKey
  rw [Bool.not_eq_true', Bool.eq_false_iff, ne_eq, String.isEmpty_iff]

/-- A blank key is none. -/
theorem hasKey_of_blank {q : Request} (h : q.key = "") : q.hasKey = false := by
  rw [Bool.eq_false_iff]
  intro hkey
  exact hasKey_iff.1 hkey h

/-- A request with a key goes by that key. -/
theorem select_of_governingKey? {q : Request} {r : Registry} {key : String}
    (h : q.governingKey? = some key) (hne : key ≠ "") :
    q.select r = Selection.ofVersionKey r q.version key := by
  unfold governingKey? at h
  unfold select
  have hempty : key.isEmpty = false := by simpa using hne
  split_ifs at h ⊢ with hkey
  · rw [Option.some.inj h]
  · rw [h]
    simp [hempty]

/-- A request that no key governs goes by the default. -/
theorem select_of_default {q : Request} {r : Registry} {d : Plugin} (h : q.governingKey? = none)
    (hd : r.defaultFor q.version = some d) : q.select r = .ok (.single d) := by
  unfold governingKey? at h
  unfold select
  split_ifs at h ⊢
  rw [h, hd]

/-- **How a request is served.** Where no key governs it the default is selected, else what the key
selects. -/
theorem select_cases {q : Request} {r : Registry} {s : Selection} (h : q.select r = .ok s) :
    (∃ p, q.governingKey? = none ∧ r.defaultFor q.version = some p ∧ s = .single p) ∨
      ∃ key, q.governingKey? = some key ∧ Selection.ofVersionKey r q.version key = .ok s := by
  unfold select at h
  unfold governingKey?
  split_ifs at h ⊢ with hkey
  · exact .inr ⟨q.key, rfl, h⟩
  · cases hlayout : q.layout? with
    | some layout =>
      rw [hlayout] at h
      simp only at h
      split_ifs at h
      exact .inr ⟨layout, rfl, h⟩
    | none =>
      rw [hlayout] at h
      simp only at h
      cases hd : r.defaultFor q.version with
      | none => simp [hd] at h
      | some p =>
        rw [hd] at h
        exact .inl ⟨p, rfl, rfl, (Except.ok.inj h).symm⟩

/-- A selection is of one plugin, which is the default of the version or one of its candidates. -/
theorem exists_of_select {q : Request} {r : Registry} {s : Selection} (h : q.select r = .ok s) :
    ∃ p, s = .single p ∧ (r.defaultFor q.version = some p ∨ p ∈ r.pluginsFor q.version) ∧
      (∀ key, q.governingKey? = some key →
        Selection.fits (splitKey key).1 (splitKey key).2 p = true) ∧
      (q.governingKey? = none → r.defaultFor q.version = some p) := by
  rcases select_cases h with ⟨p, hnone, hd, rfl⟩ | ⟨key, hkey, hsel⟩
  · refine ⟨p, rfl, .inl hd, ?_, fun _ => hd⟩
    intro key hkey
    rw [hnone] at hkey
    cases hkey
  · obtain ⟨p, rfl, hfit, hcase⟩ := Selection.ofVersionKey_cases hsel
    refine ⟨p, rfl, hcase.imp_right And.left, ?_, ?_⟩
    · intro key' hkey'
      rw [hkey] at hkey'
      rw [← Option.some.inj hkey']
      exact hfit
    · intro hnone
      rw [hkey] at hnone
      cases hnone

/-- A selection from a sound registry is of one plugin, which was offered, has no fault and supports
the version. -/
theorem offered_of_select {Offered : Plugin → Prop} {r : Registry} (sound : r.Sound Offered)
    {q : Request} {p : Plugin} (h : q.select r = .ok (.single p)) :
    Offered p ∧ p.fault? = none ∧ q.version ∈ p.projectVersions := by
  obtain ⟨p', hp', hcase, _⟩ := exists_of_select h
  obtain rfl := Selection.single_inj.1 hp'
  rcases hcase with hd | hmem
  · exact sound.of_defaultFor hd
  · exact sound.of_mem_pluginsFor hmem

/-! ## The gate -/

/-- A key that fits a plugin without a fault is well formed. -/
theorem gateKey_of_fits {key : String} {p : Plugin} (valid : p.fault? = none)
    (hfit : Selection.fits (splitKey key).1 (splitKey key).2 p = true) : gateKey key = .ok () := by
  obtain ⟨hname, hpos, _⟩ := Plugin.valid_of_fault? valid
  obtain ⟨heq, hversion⟩ := Selection.fits_iff.1 hfit
  unfold gateKey
  cases hsplit : splitKey key with
  | mk name version =>
    rw [hsplit] at heq hversion
    simp only at heq hversion ⊢
    rw [← heq, hname]
    rcases hversion with rfl | rfl
    · rfl
    · have hne : p.version.text.isEmpty = false := by simpa using p.version.text_ne_empty
      simp [hne, PluginVersion.parse, PluginVersion.parse?_text hpos]

/-- A request passes the gate if its version is well formed, has candidates, has a default where only
that can be meant, and the key of the command line is well formed if there is one. -/
theorem gate_eq_ok {q : Request} {r : Registry} (hversion : q.version.fault? = none)
    (hcandidates : r.pluginsFor q.version ≠ [])
    (hdefault : q.requiresDefault = true → r.defaultFor q.version ≠ none)
    (hkey : q.hasKey = true → gateKey q.key = .ok ()) : q.gate r = .ok () := by
  unfold gate
  rw [hversion]
  have hne : (r.pluginsFor q.version).isEmpty = false := by simpa using hcandidates
  have hd : (q.requiresDefault && (r.defaultFor q.version).isNone) = false := by
    rw [Bool.and_eq_false_imp]
    intro hreq
    rw [Option.isNone_eq_false_iff]
    exact Option.isSome_iff_ne_none.2 (hdefault hreq)
  simp only [hne, hd, Bool.false_eq_true, ↓reduceIte]
  split_ifs with hhas
  · exact hkey hhas
  · rfl

/-- Where only the default can be meant, no key governs. -/
theorem governingKey?_of_requiresDefault {q : Request} (h : q.requiresDefault = true) :
    q.governingKey? = none := by
  unfold requiresDefault at h
  rw [Bool.and_eq_true, Bool.not_eq_true', Option.isNone_iff_eq_none] at h
  unfold governingKey?
  rw [h.1, h.2]
  rfl

/-- **The gate lets through what can be selected,** in any sound registry. -/
theorem gate_of_select_of_sound {Offered : Plugin → Prop} {r : Registry} (sound : r.Sound Offered)
    {q : Request} {s : Selection} (h : q.select r = .ok s) : q.gate r = .ok () := by
  obtain ⟨p, rfl, hp, hfit, hdefault⟩ := exists_of_select h
  obtain ⟨_, valid, hv⟩ := offered_of_select sound h
  refine gate_eq_ok ((Plugin.valid_of_fault? valid).2.2 _ hv) ?_ ?_ ?_
  · rcases hp with hd | hmem
    · exact Registry.pluginsFor_ne_nil_of_defaultFor hd
    · exact List.ne_nil_of_mem hmem
  · intro hreq hnone
    rw [hdefault (governingKey?_of_requiresDefault hreq)] at hnone
    cases hnone
  · intro hhas
    have hgov : q.governingKey? = some q.key := by
      unfold governingKey?
      rw [if_pos hhas]
    exact gateKey_of_fits valid (hfit q.key hgov)

/-! ## Main results -/

/-- Two layouts of one name, and a default that is a plugin of its own with the key of one of
them. -/
def twinBatches : List Batch :=
  [⟨[GoLayout.v2, GoLayout.v3Alpha], false⟩, ⟨[{ GoLayout.v2 with serial := 1 }], true⟩]

/-- **The gate never stands in the way of a selection.** Whatever batches were registered, a request
for which a plugin is selected passes the gate. This holds of every request, also of one whose
version is not that of its project. -/
theorem gate_of_select {bs : List Batch} {r : Registry} (registered : Registry.registerAll {} bs = .ok r)
    {q : Request} {s : Selection} (selected : q.select r = .ok s) : q.gate r = .ok () := by
  obtain ⟨rfl, _⟩ := Registry.afterAll_of_registerAll registered
  exact gate_of_select_of_sound (Registry.sound_afterAll bs) selected

/-- A key with blanks around it and a slash behind its name. -/
theorem gate_of_select_padded_key :
    ∃ r s, Registry.registerAll {} twinBatches = .ok r ∧
      (unconfigured ⟨"3-alpha"⟩ " go.scaffold.dev/ ").select r = .ok s ∧
      (unconfigured ⟨"3-alpha"⟩ " go.scaffold.dev/ ").gate r = .ok () := by
  obtain ⟨r, registered⟩ := exists_eq_ok (x := Registry.registerAll {} twinBatches) (by decide)
  obtain ⟨rfl, _⟩ := Registry.afterAll_of_registerAll registered
  obtain ⟨s, selected⟩ := exists_eq_ok (x := (unconfigured ⟨"3-alpha"⟩ " go.scaffold.dev/ ").select
    (Registry.afterAll {} twinBatches)) (by decide)
  exact ⟨_, s, registered, selected, gate_of_select registered selected⟩

/-- **A selection is of exactly one compatible plugin,** whatever batches were registered and however
many of them were refused. The plugin was in one of the batches, supports the version that is asked
for, and is valid. If a key governs the request, its part before the first slash is the plugin's
name and its part behind it is empty or the plugin's version; else the plugin is the one default of
the version. -/
theorem select_compatible {bs : List Batch} {q : Request} {s : Selection}
    (selected : q.select (Registry.afterAll {} bs) = .ok s) :
    ∃ p, s.plugins = [p] ∧ (∃ b ∈ bs, p ∈ b.plugins) ∧ q.version ∈ p.projectVersions ∧
      PluginName.validate p.name = .ok () ∧ 0 < p.version.number ∧
      (∀ v ∈ p.projectVersions, v.fault? = none) ∧
      (∀ key, q.governingKey? = some key →
        (splitKey key).1 = p.name ∧ ((splitKey key).2 = "" ∨ (splitKey key).2 = p.version.text)) ∧
      (q.governingKey? = none → (Registry.afterAll {} bs).defaultFor q.version = some p ∧
        ∀ d, (q.version, d) ∈ (Registry.afterAll {} bs).defaults → d = p) := by
  have sound := Registry.sound_afterAll bs
  obtain ⟨p, rfl, _, hfit, hdefault⟩ := exists_of_select selected
  obtain ⟨hoffered, valid, hv⟩ := offered_of_select sound selected
  obtain ⟨hname, hpos, hversions⟩ := Plugin.valid_of_fault? valid
  refine ⟨p, rfl, hoffered, hv, hname, UInt64.pos_iff_ne_zero.2 hpos, hversions, ?_, ?_⟩
  · intro key hkey
    obtain ⟨heq, hversion⟩ := Selection.fits_iff.1 (hfit key hkey)
    exact ⟨heq.symm, hversion.imp_right Eq.symm⟩
  · intro hnone
    have hd := hdefault hnone
    refine ⟨hd, fun d hmem => ?_⟩
    exact sound.single.eq_of_mem hmem (Registry.mem_defaults_of_defaultFor hd)

/-- The second batch is refused, and a layout names the plugin. -/
theorem select_compatible_after_refusal :
    ∃ s, (Registry.registerAll {} (⟨[GoLayout.v2], true⟩ :: twinBatches)).isOk = false ∧
      (configured { version := ⟨"3-alpha"⟩, layout := "go.scaffold.dev/v3-alpha" } "").select
          (Registry.afterAll {} (⟨[GoLayout.v2], true⟩ :: twinBatches)) = .ok s ∧
      ∃ p, s.plugins = [p] ∧
        (∃ b ∈ ⟨[GoLayout.v2], true⟩ :: twinBatches, p ∈ b.plugins) ∧
        (⟨"3-alpha"⟩ : ProjectVersion) ∈ p.projectVersions := by
  obtain ⟨s, selected⟩ := exists_eq_ok
    (x := (configured { version := ⟨"3-alpha"⟩, layout := "go.scaffold.dev/v3-alpha" } "").select
      (Registry.afterAll {} (⟨[GoLayout.v2], true⟩ :: twinBatches))) (by decide)
  obtain ⟨p, hp, hoffered, hversion, _⟩ := select_compatible selected
  exact ⟨s, by decide, selected, p, hp, hoffered, hversion⟩

/-- A candidate passes the gate by its own key, and the plugin selected is the default if that has
the key, else the candidate. -/
theorem select_own_key {Offered : Plugin → Prop} {r : Registry} (sound : r.Sound Offered)
    (distinct : r.DistinctKeys) {v : ProjectVersion} {p : Plugin} (hp : p ∈ r.pluginsFor v) :
    (unconfigured v p.keyText).gate r = .ok () ∧
      (unconfigured v p.keyText).select r =
        .ok (.single (((r.defaultFor v).filter fun d => d.key = p.key).getD p)) := by
  have valid := (sound.of_mem_pluginsFor hp).2.1
  have hgov : (unconfigured v p.keyText).governingKey? = some p.keyText := by
    have hkey : (unconfigured v p.keyText).key = p.keyText := Plugin.trim_keyText valid
    unfold governingKey?
    rw [hasKey_iff.2 (by rw [hkey]; exact p.keyText_ne_empty), hkey]
    rfl
  have hselect : (unconfigured v p.keyText).select r =
      .ok (.single (((r.defaultFor v).filter fun d => d.key = p.key).getD p)) := by
    rw [select_of_governingKey? hgov p.keyText_ne_empty]
    by_cases hd : ∃ d, r.defaultFor v = some d ∧ d.key = p.key
    · obtain ⟨d, hdef, hkey⟩ := hd
      have htext : p.keyText = d.keyText := congrArg PluginKey.text hkey.symm
      rw [hdef, htext]
      simp only [Option.filter_some, hkey, decide_true, ↓reduceIte, Option.getD_some]
      exact Selection.ofVersionKey_keyText_default (sound.of_defaultFor hdef).2.1 hdef
    · have hother : ∀ d, r.defaultFor v = some d → d.key ≠ p.key :=
        fun d hdef hkey => hd ⟨d, hdef, hkey⟩
      have hnone : ((r.defaultFor v).filter fun d => d.key = p.key) = none := by
        rw [Option.filter_eq_none_iff]
        intro d hdef
        simpa using hother d hdef
      rw [hnone]
      exact Selection.ofVersionKey_keyText sound distinct hp hother
  exact ⟨gate_of_select_of_sound sound hselect, hselect⟩

/-- A selected plugin is selected again by every key that governs and is its own. -/
theorem select_again {Offered : Plugin → Prop} {r : Registry} (sound : r.Sound Offered)
    (distinct : r.DistinctKeys) {q : Request} {s : Selection} (selected : q.select r = .ok s) :
    ∃ p, s = .single p ∧ Text.trim p.keyText = p.keyText ∧
      ∀ q' : Request, q'.version = q.version → q'.governingKey? = some p.keyText →
        q'.select r = .ok s := by
  obtain ⟨p, rfl, _⟩ := exists_of_select selected
  have valid := (offered_of_select sound selected).2.1
  refine ⟨p, rfl, Plugin.trim_keyText valid, fun q' hversion hgov => ?_⟩
  rw [select_of_governingKey? hgov p.keyText_ne_empty, hversion]
  rcases select_cases selected with ⟨p', _, hd, hp'⟩ | ⟨key, _, hsel⟩
  · obtain rfl := Selection.single_inj.1 hp'
    exact Selection.ofVersionKey_keyText_default valid hd
  · exact Selection.ofVersionKey_keyText_of_selected sound distinct hsel

/-- A request with a key is governed by it. -/
theorem governingKey?_of_key {q : Request} (h : q.key ≠ "") : q.governingKey? = some q.key := by
  unfold governingKey?
  rw [if_pos (hasKey_iff.2 h)]

/-- A request without a key in a project that records layouts is governed by the layout. -/
theorem governingKey?_configured {c : Config} {key : String} (blank : Text.trim key = "")
    (layouts : c.supportsLayout = true) :
    (configured c key).governingKey? = some (Text.trim c.layout) := by
  unfold governingKey? layout? Config.effectiveLayout
  rw [hasKey_of_blank blank]
  simp [configured, layouts]

/-- **Plugins are selected by their own keys.** Where the plain batches were accepted, whatever
became of the batches of defaults, every candidate of a version passes the gate by its own key; the
plugin selected is the default of the version if that has the key, else the candidate itself.

So a selection is stable: the plugin of any request is selected again by its own key on the command
line, and as the layout of a project of that version if the version has layouts. -/
theorem select_keyText {bs : List Batch} (accepted : Registry.PlainAccepted {} bs) :
    (∀ v, ∀ p ∈ (Registry.afterAll {} bs).pluginsFor v,
      (unconfigured v p.keyText).gate (Registry.afterAll {} bs) = .ok () ∧
        (unconfigured v p.keyText).select (Registry.afterAll {} bs) =
          .ok (.single ((((Registry.afterAll {} bs).defaultFor v).filter fun d =>
            d.key = p.key).getD p))) ∧
    ∀ (q : Request) (s : Selection), q.select (Registry.afterAll {} bs) = .ok s →
      ∃ p, s = .single p ∧
        (∀ q' : Request, q'.version = q.version → q'.key = Text.trim p.keyText →
          q'.select (Registry.afterAll {} bs) = .ok s) ∧
        ∀ (c : Config) (key : String), c.version = q.version → c.supportsLayout = true →
          c.layout = p.keyText → Text.trim key = "" →
            (configured c key).select (Registry.afterAll {} bs) = .ok s := by
  have sound := Registry.sound_afterAll bs
  have distinct := Registry.distinctKeys_empty.afterAll accepted
  refine ⟨fun v p hp => select_own_key sound distinct hp, ?_⟩
  intro q s selected
  obtain ⟨p, hs, htrim, hagain⟩ := select_again sound distinct selected
  refine ⟨p, hs, ?_, ?_⟩
  · intro q' hversion hkey
    rw [htrim] at hkey
    apply hagain q' hversion
    rw [← hkey]
    exact governingKey?_of_key (by rw [hkey]; exact p.keyText_ne_empty)
  · intro c key hversion layouts hlayout blank
    apply hagain _ hversion
    rw [governingKey?_configured blank layouts, hlayout, htrim]

/-- The plain plugin gives way to the default that has its key. -/
theorem select_keyText_twin :
    Registry.PlainAccepted {} twinBatches ∧
      GoLayout.v2 ∈ (Registry.afterAll {} twinBatches).pluginsFor ⟨"3-alpha"⟩ ∧
      (unconfigured ⟨"3-alpha"⟩ GoLayout.v2.keyText).select (Registry.afterAll {} twinBatches) =
        .ok (.single { GoLayout.v2 with serial := 1 }) := by
  have accepted : Registry.PlainAccepted {} twinBatches := by
    refine ⟨fun _ => ?_, fun _ => ?_, trivial⟩
    · rfl
    · rfl
  have candidate : GoLayout.v2 ∈ (Registry.afterAll {} twinBatches).pluginsFor ⟨"3-alpha"⟩ := by
    refine Registry.mem_pluginsFor.2 (.inl (Registry.mem_plainFor.2 ?_))
    exact List.mem_cons_of_mem _ List.mem_cons_self
  exact ⟨accepted, candidate, ((select_keyText accepted).1 ⟨"3-alpha"⟩ GoLayout.v2 candidate).2⟩

end Request

end Scaffolder
