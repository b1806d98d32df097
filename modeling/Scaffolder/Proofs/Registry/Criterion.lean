import Mathlib.Data.String.Basic
import Scaffolder.Program
import Scaffolder.Proofs.Registry.Acceptance

/-!
# When a registration succeeds

What batches have to be like so that all of them are accepted, and what the registry says of a version
then, both read off the batches themselves.

* **What is offered to a version** (`Batch.supporting`): the plugins of one kind that support it, each
  as often as it lists it. This is what a registry that holds all entries has under the version
  (`under_entries`).
* **The criterion** (`Batch.Fit`): no plugin has a fault, the keys that a version is offered in plain
  batches are distinct, and it is offered one default at most. Plain plugins and defaults are looked at
  apart (`Batch.fit_iff_kinds`).
* **Refusals** (`Batch.Breaks`): the error of a batch that is refused names a place where the criterion
  is broken by the batches up to it (`breaks_of_register`), so that they do not fit (`Breaks.not_fit`).

`registration_criterion` puts these together.
-/

namespace Scaffolder

/-! ## What is offered -/

namespace Batch

/-- The plugins of one kind that support a version, in the order in which they come. A plugin that lists
the version several times is there as often. -/
def supporting (isDefault : Bool) (bs : List Batch) (v : ProjectVersion) : List Plugin :=
  (offered isDefault bs).flatMap fun p => List.replicate (p.projectVersions.count v) p

/-- Whether batches are such that all of them are accepted. -/
structure Fit (bs : List Batch) : Prop where
  /-- No plugin has a fault. -/
  valid : ∀ b ∈ bs, ∀ p ∈ b.plugins, p.fault? = none
  /-- The plain plugins that support a version have distinct keys. -/
  keys : ∀ v, ((supporting false bs v).map Plugin.key).Nodup
  /-- One default supports a version at most. -/
  single : ∀ v, (supporting true bs v).length ≤ 1

/-- What an error says of the batches: which plugin has a fault, for which version a key comes twice
among the plain plugins, or which two defaults support the same version. -/
def Breaks (bs : List Batch) : RegistryError → Prop
  | .invalidPlugin key fault => ∃ b ∈ bs, ∃ p ∈ b.plugins, p.key = key ∧ p.fault? = some fault
  | .conflictingKeys v key => 2 ≤ ((supporting false bs v).map Plugin.key).count key
  | .duplicateDefault v existing new => [existing, new].Sublist ((supporting true bs v).map Plugin.key)

/-- What errors name is really in the way of the batches. -/
theorem Breaks.not_fit {bs : List Batch} {e : RegistryError} (h : Breaks bs e) : ¬ Fit bs := by
  intro fit
  cases e with
  | invalidPlugin key fault =>
    obtain ⟨b, hb, p, hp, -, hfault⟩ := h
    simp [fit.valid b hb p hp] at hfault
  | conflictingKeys v key =>
    have hone := List.nodup_iff_count_le_one.1 (fit.keys v) key
    exact absurd (Nat.le_trans h hone) (by decide)
  | duplicateDefault v existing new =>
    have htwo := h.length_le
    rw [List.length_map] at htwo
    exact absurd (Nat.le_trans htwo (fit.single v)) (by simp)

/-- Of the batches of one kind, all are offered as that kind. -/
theorem offered_of_kind (kind other : Bool) (bs : List Batch) :
    offered other (bs.filter fun b => b.isDefault = kind) =
      if other = kind then offered other bs else [] := by
  unfold offered
  rw [List.filter_filter]
  split_ifs with h
  · simp [h]
  · have hnone : bs.filter (fun b => decide (b.isDefault = other) && decide (b.isDefault = kind)) =
        [] := by
      rw [List.filter_eq_nil_iff]
      intro b _ hb
      simp only [Bool.and_eq_true, decide_eq_true_eq] at hb
      exact h (hb.1.symm.trans hb.2)
    rw [hnone, List.flatMap_nil]

/-- **Plain plugins and defaults do not get in each other's way:** batches fit if the plain ones among
them do, and the batches of defaults do. -/
theorem fit_iff_kinds {bs : List Batch} :
    Fit bs ↔ ∀ kind, Fit (bs.filter fun b => b.isDefault = kind) := by
  constructor
  · intro fit kind
    refine ⟨fun b hb => fit.valid b (List.mem_of_mem_filter hb), fun v => ?_, fun v => ?_⟩
    · unfold supporting
      rw [offered_of_kind]
      split_ifs with h
      · exact fit.keys v
      · exact List.nodup_nil
    · unfold supporting
      rw [offered_of_kind]
      split_ifs with h
      · exact fit.single v
      · exact Nat.zero_le 1
  · intro fit
    refine ⟨fun b hb => ?_, fun v => ?_, fun v => ?_⟩
    · exact (fit b.isDefault).valid b (List.mem_filter.2 ⟨hb, by simp⟩)
    · have hkeys := (fit false).keys v
      unfold supporting at hkeys
      rw [offered_of_kind, if_pos rfl] at hkeys
      exact hkeys
    · have hsingle := (fit true).single v
      unfold supporting at hsingle
      rw [offered_of_kind, if_pos rfl] at hsingle
      exact hsingle

end Batch

namespace Registry

/-! ## What a registry holds -/

/-- The plugins of the entries of a version. -/
def under (v : ProjectVersion) (entries : List (ProjectVersion × Plugin)) : List Plugin :=
  (entries.filter fun e => e.1 = v).map Prod.snd

/-- What stands under a version in two lists stands in the first and then in the second. -/
theorem under_append (v : ProjectVersion) (entries more : List (ProjectVersion × Plugin)) :
    under v (entries ++ more) = under v entries ++ under v more := by
  simp [under]

/-- What stands under a version has an entry for it. -/
theorem mem_under {v : ProjectVersion} {entries : List (ProjectVersion × Plugin)} {p : Plugin} :
    p ∈ under v entries ↔ (v, p) ∈ entries := by
  simp [under]

/-- A plugin has an entry of a version as often as it lists it. -/
theorem under_entries (v : ProjectVersion) (p : Plugin) :
    under v p.entries = List.replicate (p.projectVersions.count v) p := by
  unfold under Plugin.entries
  rw [List.filter_map, List.map_map, List.count_eq_length_filter, ← List.map_const']
  rfl

/-- A plugin stands under a version as often as it names it. -/
theorem under_flatMap_entries (v : ProjectVersion) (ps : List Plugin) :
    under v (ps.flatMap Plugin.entries) =
      ps.flatMap fun p => List.replicate (p.projectVersions.count v) p := by
  induction ps with
  | nil => rfl
  | cons p ps ih => rw [List.flatMap_cons, under_append, under_entries, ih, List.flatMap_cons]

/-- After some batches the plain plugins for a version are those that support it. -/
theorem plainFor_addingAll (bs : List Batch) (v : ProjectVersion) :
    (addingAll {} bs).plainFor v = Batch.supporting false bs v :=
  under_flatMap_entries v _

/-- The default of a version is the first that is stored under it. -/
theorem defaultFor_eq_head? (r : Registry) (v : ProjectVersion) :
    r.defaultFor v = (under v r.defaults).head? := by
  unfold defaultFor under
  induction r.defaults with
  | nil => rfl
  | cons e entries ih =>
    obtain ⟨w, p⟩ := e
    by_cases h : w = v
    · simp [h]
    · rw [List.lookup_cons, beq_false_of_ne (Ne.symm h), List.filter_cons_of_neg (by simpa using h)]
      exact ih

/-- Defaults are single if at most one stands under each version. -/
theorem singleDefaults_iff {r : Registry} :
    r.SingleDefaults ↔ ∀ v, (under v r.defaults).length ≤ 1 := by
  unfold SingleDefaults
  rw [List.nodup_iff_count_le_one]
  apply forall_congr'
  intro v
  unfold under
  rw [List.length_map, List.count, List.countP_map, List.countP_eq_length_filter]
  rfl

/-- **The registry with all entries is consistent** exactly if no version is offered a key twice, or two
defaults. -/
theorem consistent_addingAll_iff {bs : List Batch} :
    (addingAll {} bs).Consistent ↔
      (∀ v, ((Batch.supporting false bs v).map Plugin.key).Nodup) ∧
        ∀ v, (Batch.supporting true bs v).length ≤ 1 := by
  have hdefaults : ∀ v, under v (addingAll {} bs).defaults = Batch.supporting true bs v :=
    fun v => under_flatMap_entries v _
  constructor
  · rintro ⟨keys, single⟩
    refine ⟨fun v => ?_, fun v => ?_⟩
    · rw [← plainFor_addingAll]
      exact keys v
    · rw [← hdefaults]
      exact singleDefaults_iff.1 single v
  · rintro ⟨keys, single⟩
    refine ⟨fun v => ?_, singleDefaults_iff.2 fun v => ?_⟩
    · rw [plainFor_addingAll]
      exact keys v
    · rw [hdefaults]
      exact single v

/-- **The candidates of a version** are the plain plugins that it is offered, and its default unless one
of them has its key. -/
theorem pluginsFor_addingAll {bs : List Batch} {v : ProjectVersion}
    (single : (Batch.supporting true bs v).length ≤ 1) :
    (addingAll {} bs).pluginsFor v = Batch.supporting false bs v ++
      (Batch.supporting true bs v).filter fun d =>
        d.key ∉ (Batch.supporting false bs v).map Plugin.key := by
  have hdefault : (addingAll {} bs).defaultFor v = (Batch.supporting true bs v).head? := by
    rw [defaultFor_eq_head?]
    exact congrArg List.head? (under_flatMap_entries v _)
  unfold pluginsFor
  rw [hdefault, plainFor_addingAll]
  rcases hd : Batch.supporting true bs v with _ | ⟨d, _ | ⟨d', ds⟩⟩
  · simp
  · have htwin : (Batch.supporting false bs v).any (fun q => q.key = d.key) =
        decide (d.key ∈ (Batch.supporting false bs v).map Plugin.key) := by
      rw [List.any_eq, decide_eq_decide, List.mem_map]
      simp
    simp only [List.head?_cons, htwin, List.filter_cons, List.filter_nil, decide_eq_true_eq]
    by_cases h : d.key ∈ (Batch.supporting false bs v).map Plugin.key
    · rw [if_pos h, if_neg (not_not.2 h), List.append_nil]
    · rw [if_neg h, if_pos h]
  · rw [hd] at single
    exact absurd single (by simp)

/-! ## Versions -/

/-- Versions in order stay so. -/
theorem pairwise_insertVersion {v : ProjectVersion} {vs : List ProjectVersion}
    (h : vs.Pairwise fun w u => w.text < u.text) :
    (insertVersion v vs).Pairwise fun w u => w.text < u.text := by
  induction vs with
  | nil => simp [insertVersion]
  | cons w ws ih =>
    obtain ⟨hw, hws⟩ := List.pairwise_cons.1 h
    unfold insertVersion
    split_ifs with heq hle
    · exact h
    · have hlt : v.text < w.text := by
        refine Std.lt_of_le_of_ne hle ?_
        intro htext
        exact heq (congrArg ProjectVersion.mk htext)
      refine List.pairwise_cons.2 ⟨?_, h⟩
      intro u hu
      rcases List.mem_cons.1 hu with rfl | hu
      · exact hlt
      · exact String.lt_trans hlt (hw u hu)
    · have hlt : w.text < v.text := String.not_le.1 hle
      refine List.pairwise_cons.2 ⟨?_, ih hws⟩
      intro u hu
      rcases mem_insertVersion.1 hu with rfl | hu
      · exact hlt
      · exact hw u hu

/-- **Versions are listed in increasing order,** each once. -/
theorem pairwise_sortVersions (vs : List ProjectVersion) :
    (sortVersions vs).Pairwise fun v w => v.text < w.text := by
  induction vs with
  | nil => exact List.Pairwise.nil
  | cons v vs ih => exact pairwise_insertVersion ih

/-- The versions of the registry with all entries are those that some plugin supports. -/
theorem mem_versions_addingAll {bs : List Batch} {v : ProjectVersion} :
    v ∈ (addingAll {} bs).versions ↔ ∃ b ∈ bs, ∃ p ∈ b.plugins, v ∈ p.projectVersions := by
  have hentries : ∀ isDefault, v ∈ ((Batch.offered isDefault bs).flatMap Plugin.entries).map Prod.fst ↔
      ∃ b ∈ bs, b.isDefault = isDefault ∧ ∃ p ∈ b.plugins, v ∈ p.projectVersions := by
    intro isDefault
    simp only [List.mem_map, List.mem_flatMap, Batch.mem_offered, Plugin.mem_entries]
    constructor
    · rintro ⟨e, ⟨p, ⟨b, hb, hkind, hp⟩, hv, -⟩, rfl⟩
      exact ⟨b, hb, hkind, p, hp, hv⟩
    · rintro ⟨b, hb, hkind, p, hp, hv⟩
      exact ⟨(v, p), ⟨p, ⟨b, hb, hkind, hp⟩, hv, rfl⟩, rfl⟩
  unfold versions
  rw [mem_sortVersions, List.mem_append]
  change v ∈ ((Batch.offered false bs).flatMap Plugin.entries).map Prod.fst ∨
    v ∈ ((Batch.offered true bs).flatMap Plugin.entries).map Prod.fst ↔ _
  rw [hentries, hentries]
  constructor
  · rintro (⟨b, hb, -, hv⟩ | ⟨b, hb, -, hv⟩)
    · exact ⟨b, hb, hv⟩
    · exact ⟨b, hb, hv⟩
  · rintro ⟨b, hb, hv⟩
    cases hkind : b.isDefault with
    | false => exact .inl ⟨b, hb, hkind, hv⟩
    | true => exact .inr ⟨b, hb, hkind, hv⟩

/-! ## Refusals -/

/-- A plugin that is refused a default comes behind the one that has it. -/
theorem addDefault_eq_error {r r' : Registry} {p : Plugin} {vs : List ProjectVersion}
    {e : RegistryError} (h : r.addDefault p vs = (r', some e)) :
    ∃ v existing, e = .duplicateDefault v existing.key p.key ∧
      [existing, p].Sublist (under v (r.defaults ++ vs.map fun v => (v, p))) := by
  induction vs generalizing r with
  | nil => simp [addDefault] at h
  | cons v vs ih =>
    rcases hv : r.defaultFor v with _ | existing
    · simp only [addDefault, hv] at h
      obtain ⟨w, existing, he, hsub⟩ := ih h
      refine ⟨w, existing, he, ?_⟩
      rw [List.append_assoc] at hsub
      exact hsub
    · simp only [addDefault, hv, Prod.mk.injEq, Option.some.injEq] at h
      refine ⟨v, existing, h.2.symm, ?_⟩
      have hthere : existing ∈ under v r.defaults := by
        rw [mem_under]
        exact mem_defaults_of_defaultFor hv
      have hclaimed : p ∈ under v ((v :: vs).map fun v => (v, p)) := by
        rw [mem_under]
        exact List.mem_cons_self
      rw [under_append]
      exact (List.singleton_sublist.2 hthere).append (List.singleton_sublist.2 hclaimed)

/-- Plugins are refused for the fault of one of them, or because one comes behind a default. -/
theorem addAll_eq_error {isDefault : Bool} {r r' : Registry} {ps : List Plugin} {e : RegistryError}
    (h : addAll isDefault r ps = (r', some e)) :
    (∃ p ∈ ps, ∃ fault, p.fault? = some fault ∧ e = .invalidPlugin p.key fault) ∨
      isDefault = true ∧ ∃ v existing p, e = .duplicateDefault v existing.key p.key ∧
        [existing, p].Sublist (under v (r.defaults ++ ps.flatMap Plugin.entries)) := by
  induction ps generalizing r with
  | nil => simp [addAll] at h
  | cons p ps ih =>
    rcases hfault : p.fault? with _ | fault
    · cases isDefault with
      | false =>
        simp only [addAll, hfault, Bool.false_eq_true, ↓reduceIte] at h
        rcases ih h with ⟨q, hq, hbroken⟩ | ⟨habsurd, -⟩
        · exact .inl ⟨q, List.mem_cons_of_mem p hq, hbroken⟩
        · cases habsurd
      | true =>
        simp only [addAll, hfault, ↓reduceIte] at h
        rcases hadd : r.addDefault p p.projectVersions with ⟨r₁, _ | e₁⟩
        · -- the plugin has claimed all its versions, the fault lies with a later one
          rw [hadd] at h
          obtain ⟨claimed, -, hall, hstate, -⟩ := r.addDefault_spec p p.projectVersions
          rw [hadd] at hall hstate
          obtain rfl : r₁ = { r with defaults := r.defaults ++ p.entries } := by
            rw [show r₁ = _ from hstate, hall rfl]
            rfl
          rcases ih h with ⟨q, hq, hbroken⟩ | ⟨-, v, existing, q, he, hsub⟩
          · exact .inl ⟨q, List.mem_cons_of_mem p hq, hbroken⟩
          · refine .inr ⟨rfl, v, existing, q, he, ?_⟩
            rw [List.append_assoc] at hsub
            exact hsub
        · simp only [hadd, Prod.mk.injEq, Option.some.injEq] at h
          obtain ⟨v, existing, he, hsub⟩ := addDefault_eq_error hadd
          refine .inr ⟨rfl, v, existing, p, h.2 ▸ he, ?_⟩
          have hfirst : r.defaults ++ (p :: ps).flatMap Plugin.entries =
              (r.defaults ++ p.entries) ++ ps.flatMap Plugin.entries := by
            rw [List.flatMap_cons, List.append_assoc]
          rw [hfirst, under_append]
          exact hsub.trans (List.sublist_append_left _ _)
    · simp only [addAll, hfault, Prod.mk.injEq, Option.some.injEq] at h
      exact .inl ⟨p, List.mem_cons_self, fault, hfault, h.2.symm⟩

/-- A key that is found twice is there twice. -/
theorem two_le_count_of_firstRepeated {seen keys : List PluginKey} {k : PluginKey}
    (h : firstRepeated seen keys = some k) : 2 ≤ (seen ++ keys).count k := by
  induction keys generalizing seen with
  | nil => simp [firstRepeated] at h
  | cons k' ks ih =>
    unfold firstRepeated at h
    split_ifs at h with hseen
    · obtain rfl := Option.some.inj h
      have hone : 1 ≤ seen.count k' := List.one_le_count_iff.2 (by simpa using hseen)
      rw [List.count_append, List.count_cons_self]
      omega
    · have hcount := ih h
      rw [List.append_assoc] at hcount
      exact hcount

/-- A conflict is a key that comes twice among the plain plugins of a version. -/
theorem conflict?_eq_some {r : Registry} {e : RegistryError} (h : r.conflict? = some e) :
    ∃ v key, e = .conflictingKeys v key ∧ 2 ≤ ((r.plainFor v).map Plugin.key).count key := by
  unfold conflict? at h
  obtain ⟨v, -, hv⟩ := List.exists_of_findSome?_eq_some h
  obtain ⟨key, hkey, rfl⟩ := Option.map_eq_some_iff.1 hv
  exact ⟨v, key, rfl, two_le_count_of_firstRepeated hkey⟩

/-- Batches are added one after another. -/
theorem addingAll_append (r : Registry) (bs bs' : List Batch) :
    r.addingAll (bs ++ bs') = (r.addingAll bs).addingAll bs' := by
  induction bs generalizing r with
  | nil => rw [List.nil_append, show r.addingAll [] = r by simp [addingAll, adding, Batch.offered]]
  | cons b bs ih => rw [List.cons_append, addingAll_cons, ih, addingAll_cons]

/-- One batch is added with its plugins. -/
theorem addingAll_singleton (r : Registry) (b : Batch) :
    r.addingAll [b] = r.adding b.isDefault b.plugins := by
  rw [addingAll_cons]
  simp [addingAll, adding, Batch.offered]

/-- **A batch is refused for something that breaks the criterion** in the batches up to it. -/
theorem breaks_of_register {done : List Batch} {b : Batch} {e : RegistryError}
    (h : ((addingAll {} done).register b).2 = some e) : Batch.Breaks (done ++ [b]) e := by
  have hall : addingAll {} (done ++ [b]) = (addingAll {} done).adding b.isDefault b.plugins := by
    rw [addingAll_append, addingAll_singleton]
  unfold register at h
  rcases hadd : addAll b.isDefault (addingAll {} done) b.plugins with ⟨r₁, _ | e₁⟩
  · rw [hadd] at h
    by_cases hb : b.isDefault = true
    · simp [hb] at h
    · -- all plain plugins are added, and two of them have the same key
      rw [Bool.not_eq_true] at hb
      simp only [hb, Bool.false_eq_true, ↓reduceIte] at h
      rw [hb] at hadd hall
      obtain ⟨-, rfl⟩ := addAll_false_eq_iff.1 hadd
      obtain ⟨v, key, rfl, hcount⟩ := conflict?_eq_some h
      rw [← hall, plainFor_addingAll] at hcount
      exact hcount
  · simp only [hadd, Option.some.injEq] at h
    obtain rfl := h
    rcases addAll_eq_error hadd with ⟨p, hp, fault, hfault, rfl⟩ | ⟨hb, v, existing, p, rfl, hsub⟩
    · exact ⟨b, by simp, p, hp, rfl, hfault⟩
    · have hdefaults : (addingAll {} (done ++ [b])).defaults =
          (addingAll {} done).defaults ++ b.plugins.flatMap Plugin.entries := by
        rw [hall, hb]
        rfl
      rw [← hdefaults] at hsub
      have hunder : under v (addingAll {} (done ++ [b])).defaults =
          Batch.supporting true (done ++ [b]) v := under_flatMap_entries v _
      rw [hunder] at hsub
      exact hsub.map Plugin.key

/-- **Where batches are refused,** one is, and those before it were not. -/
theorem registerAll_eq_error {r : Registry} {bs : List Batch} {e : RegistryError}
    (h : registerAll r bs = .error e) :
    ∃ done b rest r₁, bs = done ++ b :: rest ∧ registerAll r done = .ok r₁ ∧
      (r₁.register b).2 = some e := by
  induction bs generalizing r with
  | nil => cases h
  | cons b bs ih =>
    unfold registerAll at h
    rcases hb : r.register b with ⟨r₁, _ | e₁⟩
    · rw [hb] at h
      obtain ⟨done, b', rest, r₂, rfl, hdone, hrefused⟩ := ih h
      refine ⟨b :: done, b', rest, r₂, rfl, ?_, hrefused⟩
      unfold registerAll
      rw [hb]
      exact hdone
    · simp only [hb, Except.error.injEq] at h
      exact ⟨[], b, bs, r, rfl, rfl, by rw [hb, h]⟩

/-! ## Main result -/

/-- **When a registration succeeds,** from an empty registry.

1. All batches are accepted exactly if they fit: no plugin has a fault, the plain plugins that support a
   version have distinct keys, and one default supports it at most, where a plugin counts as often as it
   lists the version.
2. That is so exactly if the plain batches alone are accepted, and the batches of defaults alone.
3. Then a version has the plain plugins that support it as candidates, in the order in which they came,
   and behind them its default unless one of them has its key. The default is the one that supports it.
   The versions are those that some plugin supports, in increasing order and each once.
4. Else the first batch that is refused is refused for something that breaks the criterion in the batches
   up to it: a plugin with a fault, a key that a version is offered twice, or two defaults of a
   version. -/
theorem registration_criterion (bs : List Batch) :
    ((∃ r, registerAll {} bs = .ok r) ↔ Batch.Fit bs) ∧
    ((∃ r, registerAll {} bs = .ok r) ↔
      ∀ kind, ∃ r, registerAll {} (bs.filter fun b => b.isDefault = kind) = .ok r) ∧
    (∀ r, registerAll {} bs = .ok r →
      (∀ v, r.pluginsFor v = Batch.supporting false bs v ++
          (Batch.supporting true bs v).filter fun d =>
            d.key ∉ (Batch.supporting false bs v).map Plugin.key) ∧
        (∀ v, (r.defaultFor v).toList = Batch.supporting true bs v) ∧
        r.versions.Pairwise (fun v w => v.text < w.text) ∧
        ∀ v, v ∈ r.versions ↔ ∃ b ∈ bs, ∃ p ∈ b.plugins, v ∈ p.projectVersions) ∧
    ∀ e, registerAll {} bs = .error e →
      ∃ done b rest r, bs = done ++ b :: rest ∧ registerAll {} done = .ok r ∧
        (r.register b).2 = some e ∧ Batch.Breaks (done ++ [b]) e := by
  have accepted : ∀ bs, (∃ r, registerAll {} bs = .ok r) ↔ Batch.Fit bs := by
    intro bs
    constructor
    · rintro ⟨r, registered⟩
      obtain ⟨valid, rfl, consistent⟩ := (registerAll_eq_ok_iff consistent_empty).1 registered
      obtain ⟨keys, single⟩ := consistent_addingAll_iff.1 consistent
      exact ⟨valid, keys, single⟩
    · rintro ⟨valid, keys, single⟩
      have consistent := consistent_addingAll_iff.2 ⟨keys, single⟩
      exact ⟨_, (registerAll_eq_ok_iff consistent_empty).2 ⟨valid, rfl, consistent⟩⟩
  refine ⟨accepted bs, ?_, ?_, ?_⟩
  · rw [accepted bs, Batch.fit_iff_kinds]
    exact forall_congr' fun kind => (accepted _).symm
  · intro r registered
    obtain ⟨-, rfl, consistent⟩ := (registerAll_eq_ok_iff consistent_empty).1 registered
    obtain ⟨-, single⟩ := consistent_addingAll_iff.1 consistent
    refine ⟨fun v => pluginsFor_addingAll (single v), fun v => ?_, pairwise_sortVersions _,
      fun v => mem_versions_addingAll⟩
    rw [defaultFor_eq_head?, show under v (addingAll {} bs).defaults = Batch.supporting true bs v from
      under_flatMap_entries v _]
    have hsingle := single v
    rcases hd : Batch.supporting true bs v with _ | ⟨d, _ | ⟨d', ds⟩⟩
    · rfl
    · rfl
    · rw [hd] at hsingle
      exact absurd hsingle (by simp)
  · intro e refused
    obtain ⟨done, b, rest, r, rfl, registered, hrefused⟩ := registerAll_eq_error refused
    obtain ⟨-, rfl, -⟩ := (registerAll_eq_ok_iff consistent_empty).1 registered
    exact ⟨done, b, rest, _, rfl, registered, hrefused, breaks_of_register hrefused⟩

/-- The batches that ship, and a second default for version `3-alpha` behind them. -/
def secondDefault : List Batch := Program.batches ++ [⟨[GoLayout.v3Alpha], true⟩]

/-- What ships is accepted: version `3-alpha` has both layouts as candidates, and the default is one of
them. A second default for the version is refused, and it is one too many. -/
theorem registration_criterion_layouts :
    ∃ r, registerAll {} Program.batches = .ok r ∧
      r.pluginsFor ⟨"3-alpha"⟩ = [GoLayout.v2, GoLayout.v3Alpha] ∧
      ∃ e, registerAll {} secondDefault = .error e ∧
        ∃ done b rest, secondDefault = done ++ b :: rest ∧ Batch.Breaks (done ++ [b]) e := by
  obtain ⟨-, -, onSuccess, -⟩ := registration_criterion Program.batches
  obtain ⟨r, registered⟩ : ∃ r, registerAll {} Program.batches = .ok r := ⟨_, rfl⟩
  obtain ⟨candidates, -⟩ := onSuccess r registered
  refine ⟨r, registered, candidates ⟨"3-alpha"⟩, ?_⟩
  obtain ⟨-, -, -, onError⟩ := registration_criterion secondDefault
  obtain ⟨e, refused⟩ : ∃ e, registerAll {} secondDefault = .error e := ⟨_, rfl⟩
  obtain ⟨done, b, rest, -, hbatches, -, -, hbreaks⟩ := onError e refused
  exact ⟨e, refused, done, b, rest, hbatches, hbreaks⟩

end Registry

end Scaffolder
