import Mathlib.Data.List.Nodup
import Mathlib.Data.List.TakeWhile
import Mathlib.Tactic.SplitIfs
import Scaffolder.Registry

/-!
# What registration does to a registry

The registries that batches lead to, whether all of them are accepted or not.

* **One batch.** A plain batch appends the entries of its plugins up to the first faulty one
  (`register_plain`). A batch of defaults appends a prefix of these entries, and no version gets a
  second default (`register_default`).
* **Any number of batches.** Every stored entry is an offered plugin without a fault, under a version
  that it supports, and no version has two defaults (`sound_afterAll`).
* **Keys.** If the plain batches are accepted, the candidates of a version have distinct keys
  (`keys_pluginsFor_nodup`).
-/

namespace Scaffolder

/-- What is found is there. -/
theorem mem_of_lookup {α β : Type} [BEq α] [LawfulBEq α] {a : α} {b : β} {entries : List (α × β)}
    (h : entries.lookup a = some b) : (a, b) ∈ entries := by
  obtain ⟨front, back, heq, _⟩ := List.lookup_eq_some_iff.1 h
  rw [heq]
  exact List.mem_append_right _ List.mem_cons_self

/-- The entries of a plugin: itself under each of its versions. -/
def Plugin.entries (p : Plugin) : List (ProjectVersion × Plugin) :=
  p.projectVersions.map fun v => (v, p)

/-- The plugins of a batch before the first with a fault. -/
def Batch.accepted (b : Batch) : List Plugin := b.plugins.takeWhile fun p => p.fault?.isNone

/-- The entries that a batch asks for. -/
def Batch.entries (b : Batch) : List (ProjectVersion × Plugin) := b.accepted.flatMap Plugin.entries

/-- A plugin has an entry for each version that it supports. -/
theorem Plugin.mem_entries {p : Plugin} {e : ProjectVersion × Plugin} :
    e ∈ p.entries ↔ e.1 ∈ p.projectVersions ∧ e.2 = p := by
  unfold Plugin.entries
  rw [List.mem_map]
  constructor
  · rintro ⟨v, hv, rfl⟩
    exact ⟨hv, rfl⟩
  · rintro ⟨hv, rfl⟩
    exact ⟨e.1, hv, rfl⟩

/-- What a batch asks for comes from one of its plugins, which has no fault. -/
theorem Batch.of_mem_entries {b : Batch} {e : ProjectVersion × Plugin} (h : e ∈ b.entries) :
    e.2 ∈ b.plugins ∧ e.2.fault? = none ∧ e.1 ∈ e.2.projectVersions := by
  obtain ⟨p, hp, he⟩ := List.mem_flatMap.1 h
  obtain ⟨hv, rfl⟩ := Plugin.mem_entries.1 he
  refine ⟨(List.takeWhile_prefix _).subset hp, ?_, hv⟩
  have hnone : e.2.fault?.isNone = true :=
    List.mem_takeWhile_imp (p := fun q : Plugin => q.fault?.isNone) hp
  exact Option.isNone_iff_eq_none.1 hnone

/-- A plugin without a fault has a valid name, a positive version number, and supports well-formed
versions only. -/
theorem Plugin.valid_of_fault? {p : Plugin} (h : p.fault? = none) :
    PluginName.validate p.name = .ok () ∧ p.version.number ≠ 0 ∧
      ∀ v ∈ p.projectVersions, v.fault? = none := by
  unfold Plugin.fault? at h
  cases hname : PluginName.validate p.name with
  | error cause => simp [hname] at h
  | ok =>
    simp only [hname] at h
    split_ifs at h with hzero hempty
    refine ⟨rfl, hzero, ?_⟩
    intro v hv
    have := List.findSome?_eq_none_iff.1 h v hv
    exact Option.map_eq_none_iff.1 this

namespace Registry

/-- The registry after some batches in turn, whatever becomes of each. -/
def afterAll (r : Registry) (bs : List Batch) : Registry :=
  bs.foldl (fun r b => (r.register b).1) r

/-- The first batch is registered, and then the others. -/
@[simp] theorem afterAll_cons (r : Registry) (b : Batch) (bs : List Batch) :
    r.afterAll (b :: bs) = (r.register b).1.afterAll bs := rfl

/-- Whether every plain batch among some is accepted when it comes. -/
def PlainAccepted (r : Registry) : List Batch → Prop
  | [] => True
  | b :: bs => (b.isDefault = false → (r.register b).2 = none) ∧ PlainAccepted (r.register b).1 bs

/-! ## One batch -/

/-- **A plain batch** appends the entries of its plugins, up to the first with a fault. -/
theorem addAll_false (r : Registry) (ps : List Plugin) :
    (addAll false r ps).1 =
      { r with plain := r.plain ++ (Batch.mk ps false).entries } := by
  induction ps generalizing r with
  | nil => simp [addAll, Batch.entries, Batch.accepted]
  | cons p ps ih =>
    cases hf : p.fault? with
    | some fault => simp [addAll, hf, Batch.entries, Batch.accepted]
    | none =>
      have step : addAll false r (p :: ps) = addAll false (r.addPlain p p.projectVersions) ps := by
        simp [addAll, hf]
      rw [step, ih]
      simp [addPlain, Batch.entries, Batch.accepted, hf, Plugin.entries]

/-- Whether the defaults of a registry have distinct versions. -/
def SingleDefaults (r : Registry) : Prop := (r.defaults.map Prod.fst).Nodup

/-- A version has no default if no entry for it is among the defaults. -/
theorem defaultFor_eq_none_iff {r : Registry} {v : ProjectVersion} :
    r.defaultFor v = none ↔ v ∉ r.defaults.map Prod.fst := by
  unfold defaultFor
  rw [List.lookup_eq_none_iff, List.mem_map]
  constructor
  · rintro h ⟨e, he, rfl⟩
    simpa using h e he
  · intro h e he
    rw [bne_iff_ne]
    rintro rfl
    exact h ⟨e, he, rfl⟩

/-- One more default keeps the versions distinct if its version has none. -/
theorem SingleDefaults.append {r : Registry} {v : ProjectVersion} (h : r.SingleDefaults)
    (free : r.defaultFor v = none) (p : Plugin) :
    SingleDefaults { r with defaults := r.defaults ++ [(v, p)] } := by
  unfold SingleDefaults
  rw [List.map_append, List.nodup_append]
  refine ⟨h, List.nodup_singleton v, ?_⟩
  intro w hw x hx heq
  rw [heq, List.mem_singleton.1 hx] at hw
  exact defaultFor_eq_none_iff.1 free hw

/-- A plugin claims the default of its first versions, of all of them if that is not refused. -/
theorem addDefault_spec (r : Registry) (p : Plugin) (vs : List ProjectVersion) :
    ∃ claimed, claimed <+: vs ∧ ((r.addDefault p vs).2 = none → claimed = vs) ∧
      (r.addDefault p vs).1 = { r with defaults := r.defaults ++ claimed.map fun v => (v, p) } ∧
      (r.SingleDefaults → (r.addDefault p vs).1.SingleDefaults) := by
  induction vs generalizing r with
  | nil => exact ⟨[], List.nil_prefix, fun _ => rfl, by simp [addDefault], fun h => h⟩
  | cons v vs ih =>
    cases hv : r.defaultFor v with
    | some existing =>
      exact ⟨[], List.nil_prefix, by simp [addDefault, hv], by simp [addDefault, hv],
        by simp [addDefault, hv]⟩
    | none =>
      have step : r.addDefault p (v :: vs) =
          addDefault { r with defaults := r.defaults ++ [(v, p)] } p vs := by
        simp [addDefault, hv]
      obtain ⟨claimed, hpre, hall, hstate, hsingle⟩ :=
        ih { r with defaults := r.defaults ++ [(v, p)] }
      rw [step]
      refine ⟨v :: claimed, List.cons_prefix_cons.2 ⟨rfl, hpre⟩, ?_, ?_, ?_⟩
      · intro h
        rw [hall h]
      · rw [hstate]
        simp
      · intro h
        exact hsingle (h.append hv p)

/-- **A batch of defaults** appends a prefix of the entries that it asks for. -/
theorem addAll_true (r : Registry) (ps : List Plugin) :
    ∃ added, added <+: (Batch.mk ps true).entries ∧
      (addAll true r ps).1 = { r with defaults := r.defaults ++ added } ∧
      (r.SingleDefaults → (addAll true r ps).1.SingleDefaults) := by
  induction ps generalizing r with
  | nil => exact ⟨[], List.nil_prefix, by simp [addAll], fun h => h⟩
  | cons p ps ih =>
    cases hf : p.fault? with
    | some fault => exact ⟨[], List.nil_prefix, by simp [addAll, hf], by simp [addAll, hf]⟩
    | none =>
      have hentries : (Batch.mk (p :: ps) true).entries = p.entries ++ (Batch.mk ps true).entries := by
        simp [Batch.entries, Batch.accepted, hf]
      obtain ⟨claimed, hpre, hall, hstate, hsingle⟩ := r.addDefault_spec p p.projectVersions
      cases hadd : r.addDefault p p.projectVersions with
      | mk r' error =>
        rw [hadd] at hall hstate hsingle
        replace hstate : r' = _ := hstate
        cases error with
        | some e =>
          have step : addAll true r (p :: ps) = (r', some e) := by simp [addAll, hf, hadd]
          rw [step, hentries]
          refine ⟨claimed.map fun v => (v, p), ?_, hstate, hsingle⟩
          exact (hpre.map fun v => (v, p)).trans (List.prefix_append _ _)
        | none =>
          have step : addAll true r (p :: ps) = addAll true r' ps := by simp [addAll, hf, hadd]
          obtain ⟨added, hadded, hstate', hsingle'⟩ := ih r'
          rw [step, hentries]
          refine ⟨p.entries ++ added, (List.prefix_append_right_inj _).2 hadded, ?_, ?_⟩
          · rw [hstate', hstate, hall rfl]
            simp [Plugin.entries]
          · intro h
            exact hsingle' (hsingle h)

/-- What a batch leaves is what its plugins leave, whether it is refused or not. -/
theorem register_fst (r : Registry) (b : Batch) :
    (r.register b).1 = (addAll b.isDefault r b.plugins).1 := by
  unfold register
  cases hadd : addAll b.isDefault r b.plugins with
  | mk r' error => cases error <;> rfl

/-- What a plain batch leaves behind. -/
theorem register_plain (r : Registry) {b : Batch} (h : b.isDefault = false) :
    (r.register b).1 = { r with plain := r.plain ++ b.entries } := by
  rw [register_fst, h, addAll_false]
  rfl

/-- What a batch of defaults leaves behind. -/
theorem register_default (r : Registry) {b : Batch} (h : b.isDefault = true) :
    ∃ added, added <+: b.entries ∧ (r.register b).1 = { r with defaults := r.defaults ++ added } ∧
      (r.SingleDefaults → (r.register b).1.SingleDefaults) := by
  rw [register_fst, h]
  exact r.addAll_true b.plugins

/-- What an accepted plain batch leaves behind has no conflict. -/
theorem conflict?_register {r : Registry} {b : Batch} (h : b.isDefault = false)
    (accepted : (r.register b).2 = none) : (r.register b).1.conflict? = none := by
  unfold register at accepted ⊢
  rw [h] at accepted ⊢
  cases hadd : addAll false r b.plugins with
  | mk r' error =>
    cases error with
    | some e => simp [hadd] at accepted
    | none => simpa [hadd] using accepted

/-! ## Any number of batches -/

/-- **The invariant of every registry.** `Offered` tells which plugins were in a batch. -/
structure Sound (Offered : Plugin → Prop) (r : Registry) : Prop where
  /-- A plain entry is an offered plugin without a fault, under a version that it supports. -/
  plain : ∀ e ∈ r.plain, Offered e.2 ∧ e.2.fault? = none ∧ e.1 ∈ e.2.projectVersions
  /-- So is a default. -/
  defaults : ∀ e ∈ r.defaults, Offered e.2 ∧ e.2.fault? = none ∧ e.1 ∈ e.2.projectVersions
  /-- No version has two defaults. -/
  single : r.SingleDefaults

/-- A registry without entries is sound. -/
theorem sound_empty (Offered : Plugin → Prop) : Sound Offered {} where
  plain := by simp
  defaults := by simp
  single := List.nodup_nil

/-- **One batch keeps the invariant,** whether it is accepted or not. -/
theorem Sound.register {Offered : Plugin → Prop} {r : Registry} (h : Sound Offered r) {b : Batch}
    (hb : ∀ p ∈ b.plugins, Offered p) : Sound Offered (r.register b).1 := by
  have hentries : ∀ e ∈ b.entries,
      Offered e.2 ∧ e.2.fault? = none ∧ e.1 ∈ e.2.projectVersions := by
    intro e he
    obtain ⟨hmem, hfault, hv⟩ := Batch.of_mem_entries he
    exact ⟨hb _ hmem, hfault, hv⟩
  cases hd : b.isDefault with
  | false =>
    rw [r.register_plain hd]
    refine ⟨?_, h.defaults, h.single⟩
    intro e he
    rcases List.mem_append.1 he with he | he
    · exact h.plain e he
    · exact hentries e he
  | true =>
    obtain ⟨added, hpre, hstate, hsingle⟩ := r.register_default hd
    have single := hsingle h.single
    rw [hstate] at single ⊢
    refine ⟨h.plain, ?_, single⟩
    intro e he
    rcases List.mem_append.1 he with he | he
    · exact h.defaults e he
    · exact hentries e (hpre.subset he)

/-- The invariant holds after any number of batches if it holds before them. -/
theorem Sound.afterAll {Offered : Plugin → Prop} {r : Registry} (h : Sound Offered r)
    {bs : List Batch} (hbs : ∀ b ∈ bs, ∀ p ∈ b.plugins, Offered p) :
    Sound Offered (r.afterAll bs) := by
  induction bs generalizing r with
  | nil => exact h
  | cons b bs ih =>
    rw [afterAll_cons]
    apply ih (h.register (hbs b List.mem_cons_self))
    intro b' hb'
    exact hbs b' (List.mem_cons_of_mem _ hb')

/-- **Every registry that batches lead to is sound.** -/
theorem sound_afterAll (bs : List Batch) :
    Sound (fun p => ∃ b ∈ bs, p ∈ b.plugins) (afterAll {} bs) :=
  (sound_empty _).afterAll fun b hb _ hp => ⟨b, hb, hp⟩

/-- Batches that are all accepted lead to the registry that they lead to in any case, and the plain
ones among them are accepted. -/
theorem afterAll_of_registerAll {r r' : Registry} {bs : List Batch}
    (h : registerAll r bs = .ok r') : r' = r.afterAll bs ∧ r.PlainAccepted bs := by
  induction bs generalizing r with
  | nil => exact ⟨(Except.ok.inj h).symm, trivial⟩
  | cons b bs ih =>
    unfold registerAll at h
    cases hb : r.register b with
    | mk next error =>
      cases error with
      | some e => simp [hb] at h
      | none =>
        simp only [hb] at h
        obtain ⟨hstate, haccepted⟩ := ih h
        refine ⟨?_, ?_, ?_⟩
        · rw [afterAll_cons, hb]
          exact hstate
        · intro _
          rw [hb]
        · rw [hb]
          exact haccepted

/-! ## Looking up -/

/-- The plain plugins for a version are those with an entry for it. -/
theorem mem_plainFor {r : Registry} {v : ProjectVersion} {p : Plugin} :
    p ∈ r.plainFor v ↔ (v, p) ∈ r.plain := by
  unfold plainFor
  rw [List.mem_map]
  constructor
  · rintro ⟨e, he, rfl⟩
    obtain ⟨hmem, hv⟩ := List.mem_filter.1 he
    rw [← of_decide_eq_true hv]
    exact hmem
  · intro h
    exact ⟨(v, p), List.mem_filter.2 ⟨h, by simp⟩, rfl⟩

/-- A default has an entry. -/
theorem mem_defaults_of_defaultFor {r : Registry} {v : ProjectVersion} {p : Plugin}
    (h : r.defaultFor v = some p) : (v, p) ∈ r.defaults :=
  mem_of_lookup h

/-- Where no version has two defaults, the default of a version is the only one stored for it. -/
theorem SingleDefaults.eq_of_mem {r : Registry} (h : r.SingleDefaults) {v : ProjectVersion}
    {p q : Plugin} (hp : (v, p) ∈ r.defaults) (hq : (v, q) ∈ r.defaults) : p = q := by
  have := List.inj_on_of_nodup_map h hp hq rfl
  exact congrArg Prod.snd this

/-- The candidates of a version: its plain plugins, and its default unless one of these has its
key. -/
theorem mem_pluginsFor {r : Registry} {v : ProjectVersion} {p : Plugin} :
    p ∈ r.pluginsFor v ↔
      p ∈ r.plainFor v ∨ (r.defaultFor v = some p ∧ ∀ q ∈ r.plainFor v, q.key ≠ p.key) := by
  unfold pluginsFor
  cases hd : r.defaultFor v with
  | none => simp
  | some d =>
    by_cases hany : ∃ q ∈ r.plainFor v, q.key = d.key
    · have : ((r.plainFor v).any fun q => q.key = d.key) = true := by simpa using hany
      simp only [this, ↓reduceIte, Option.some.injEq]
      constructor
      · exact .inl
      · rintro (hp | ⟨rfl, hnone⟩)
        · exact hp
        · obtain ⟨q, hq, hkey⟩ := hany
          exact absurd hkey (hnone q hq)
    · have : ((r.plainFor v).any fun q => q.key = d.key) = false := by simpa using hany
      simp only [this, Bool.false_eq_true, ↓reduceIte, List.mem_append, List.mem_singleton,
        Option.some.injEq]
      constructor
      · rintro (hp | rfl)
        · exact .inl hp
        · exact .inr ⟨rfl, fun q hq hkey => hany ⟨q, hq, hkey⟩⟩
      · rintro (hp | ⟨rfl, _⟩)
        · exact .inl hp
        · exact .inr rfl

/-- The key of a default is that of a candidate: its own, or that of a plain plugin which stands in
its stead. -/
theorem exists_mem_pluginsFor_of_defaultFor {r : Registry} {v : ProjectVersion} {d : Plugin}
    (hd : r.defaultFor v = some d) : ∃ p ∈ r.pluginsFor v, p.key = d.key := by
  by_cases twin : ∃ q ∈ r.plainFor v, q.key = d.key
  · obtain ⟨q, hq, hkey⟩ := twin
    exact ⟨q, mem_pluginsFor.2 (.inl hq), hkey⟩
  · refine ⟨d, mem_pluginsFor.2 (.inr ⟨hd, ?_⟩), rfl⟩
    intro q hq hkey
    exact twin ⟨q, hq, hkey⟩

/-- A version with a default has candidates. -/
theorem pluginsFor_ne_nil_of_defaultFor {r : Registry} {v : ProjectVersion} {p : Plugin}
    (h : r.defaultFor v = some p) : r.pluginsFor v ≠ [] := by
  obtain ⟨q, hq, -⟩ := exists_mem_pluginsFor_of_defaultFor h
  exact List.ne_nil_of_mem hq

/-- What is known of a default in a sound registry. -/
theorem Sound.of_defaultFor {Offered : Plugin → Prop} {r : Registry} (h : Sound Offered r)
    {v : ProjectVersion} {p : Plugin} (hp : r.defaultFor v = some p) :
    Offered p ∧ p.fault? = none ∧ v ∈ p.projectVersions :=
  h.defaults (v, p) (mem_defaults_of_defaultFor hp)

/-- What is known of a candidate in a sound registry. -/
theorem Sound.of_mem_pluginsFor {Offered : Plugin → Prop} {r : Registry} (h : Sound Offered r)
    {v : ProjectVersion} {p : Plugin} (hp : p ∈ r.pluginsFor v) :
    Offered p ∧ p.fault? = none ∧ v ∈ p.projectVersions := by
  rcases mem_pluginsFor.1 hp with hp | ⟨hp, _⟩
  · exact h.plain (v, p) (mem_plainFor.1 hp)
  · exact h.of_defaultFor hp

/-! ## Keys -/

/-- Whether the plain plugins of every version have distinct keys. -/
def DistinctKeys (r : Registry) : Prop := ∀ v, ((r.plainFor v).map Plugin.key).Nodup

/-- A version that is put in its place is there, and so are the others. -/
theorem mem_insertVersion {v w : ProjectVersion} {vs : List ProjectVersion} :
    w ∈ insertVersion v vs ↔ w = v ∨ w ∈ vs := by
  induction vs with
  | nil => simp [insertVersion]
  | cons u us ih =>
    unfold insertVersion
    split_ifs with heq hle
    · subst heq
      simp
    · simp
    · rw [List.mem_cons, ih, List.mem_cons]
      exact or_left_comm

/-- Sorting changes no version. -/
theorem mem_sortVersions {w : ProjectVersion} {vs : List ProjectVersion} :
    w ∈ sortVersions vs ↔ w ∈ vs := by
  induction vs with
  | nil => exact Iff.rfl
  | cons v vs ih =>
    have step : sortVersions (v :: vs) = insertVersion v (sortVersions vs) := rfl
    rw [step, mem_insertVersion, ih, List.mem_cons]

/-- **The versions are those that have candidates.** -/
theorem mem_versions_iff {r : Registry} {v : ProjectVersion} : v ∈ r.versions ↔ r.pluginsFor v ≠ [] := by
  unfold versions
  rw [mem_sortVersions, List.mem_append]
  constructor
  · rintro (hplain | hdefault)
    · obtain ⟨⟨_, p⟩, he, rfl⟩ := List.mem_map.1 hplain
      exact List.ne_nil_of_mem (mem_pluginsFor.2 (.inl (mem_plainFor.2 he)))
    · obtain ⟨d, hd⟩ := Option.ne_none_iff_exists'.1 fun hnone => defaultFor_eq_none_iff.1 hnone hdefault
      exact pluginsFor_ne_nil_of_defaultFor hd
  · intro h
    obtain ⟨p, hp⟩ := List.exists_mem_of_ne_nil _ h
    rcases mem_pluginsFor.1 hp with hp | ⟨hp, -⟩
    · exact .inl (List.mem_map.2 ⟨(v, p), mem_plainFor.1 hp, rfl⟩)
    · exact .inr (List.mem_map.2 ⟨(v, p), mem_defaults_of_defaultFor hp, rfl⟩)

/-- No key is found repeated exactly if the keys differ from each other and from those before. -/
theorem firstRepeated_eq_none_iff {seen keys : List PluginKey} :
    firstRepeated seen keys = none ↔ keys.Nodup ∧ ∀ k ∈ keys, k ∉ seen := by
  induction keys generalizing seen with
  | nil => simp [firstRepeated]
  | cons k ks ih =>
    unfold firstRepeated
    by_cases hk : k ∈ seen
    · simp [hk]
    · have hc : seen.contains k = false := by simpa using hk
      simp only [hc, Bool.false_eq_true, ↓reduceIte, ih, List.nodup_cons, List.mem_cons,
        List.mem_append, List.not_mem_nil, or_false, not_or]
      constructor
      · rintro ⟨hnodup, hnew⟩
        refine ⟨⟨fun hmem => (hnew k hmem).2 rfl, hnodup⟩, ?_⟩
        rintro k' (rfl | hk')
        · exact hk
        · exact (hnew k' hk').1
      · rintro ⟨⟨hnot, hnodup⟩, hnew⟩
        refine ⟨hnodup, fun k' hk' => ⟨hnew k' (.inr hk'), ?_⟩⟩
        rintro rfl
        exact hnot hk'

/-- **There is no conflict exactly if the keys are distinct.** -/
theorem conflict?_eq_none_iff {r : Registry} : r.conflict? = none ↔ r.DistinctKeys := by
  unfold conflict? DistinctKeys
  rw [List.findSome?_eq_none_iff]
  have hkeys : ∀ v, (firstRepeated [] ((r.plainFor v).map Plugin.key)).map
      (RegistryError.conflictingKeys v) = none ↔ ((r.plainFor v).map Plugin.key).Nodup := by
    intro v
    rw [Option.map_eq_none_iff, firstRepeated_eq_none_iff]
    simp
  constructor
  · intro h v
    by_cases hv : v ∈ r.plainVersions
    · exact (hkeys v).1 (h v hv)
    · -- a version without plain plugins
      have hnil : r.plainFor v = [] := by
        rw [List.eq_nil_iff_forall_not_mem]
        intro p hp
        exact hv (mem_sortVersions.2 (List.mem_map.2 ⟨(v, p), mem_plainFor.1 hp, rfl⟩))
      rw [hnil]
      exact List.nodup_nil
  · intro h v _
    exact (hkeys v).2 (h v)

/-- **Accepted plain batches leave distinct keys,** whatever becomes of the batches of defaults. -/
theorem DistinctKeys.afterAll {r : Registry} (h : r.DistinctKeys) {bs : List Batch}
    (accepted : r.PlainAccepted bs) : (r.afterAll bs).DistinctKeys := by
  induction bs generalizing r with
  | nil => exact h
  | cons b bs ih =>
    obtain ⟨hb, hbs⟩ := accepted
    rw [afterAll_cons]
    refine ih ?_ hbs
    cases hd : b.isDefault with
    | false => exact conflict?_eq_none_iff.1 (conflict?_register hd (hb hd))
    | true =>
      -- the plain plugins are as before
      obtain ⟨added, _, hstate, _⟩ := r.register_default hd
      rw [hstate]
      exact h

/-- Without entries no two keys are the same. -/
theorem distinctKeys_empty : DistinctKeys {} := fun _ => List.nodup_nil

/-- **The candidates of a version have distinct keys.** -/
theorem DistinctKeys.keys_pluginsFor_nodup {r : Registry} (h : r.DistinctKeys)
    (v : ProjectVersion) : ((r.pluginsFor v).map Plugin.key).Nodup := by
  unfold pluginsFor
  cases hd : r.defaultFor v with
  | none => exact h v
  | some d =>
    by_cases hany : ((r.plainFor v).any fun q => q.key = d.key) = true
    · simp only [hany, ↓reduceIte]
      exact h v
    · simp only [hany, Bool.false_eq_true, ↓reduceIte]
      rw [List.map_append, List.nodup_append]
      refine ⟨h v, List.nodup_singleton _, ?_⟩
      intro k hk k' hk' heq
      obtain ⟨q, hq, rfl⟩ := List.mem_map.1 hk
      rw [List.map_singleton, List.mem_singleton] at hk'
      refine hany (List.any_eq_true.2 ⟨q, hq, ?_⟩)
      exact decide_eq_true (heq.trans hk')

/-- Two candidates of a version with one key are the same. -/
theorem DistinctKeys.eq_of_key_eq {r : Registry} (h : r.DistinctKeys) {v : ProjectVersion}
    {p q : Plugin} (hp : p ∈ r.pluginsFor v) (hq : q ∈ r.pluginsFor v) (hkey : p.key = q.key) :
    p = q :=
  List.inj_on_of_nodup_map (h.keys_pluginsFor_nodup v) hp hq hkey

end Registry

end Scaffolder
