import Mathlib.Data.List.Induction
import Scaffolder.GoLayout
import Scaffolder.Proofs.Registry

/-!
# What a registry keeps

What no later batch changes in a registry. A batch that is refused is not undone, so the registries
that can be reached include those in which a part of a batch has stayed.

* **Growth** (`extends_afterAll`): a batch puts entries behind those that are there, and takes none
  away. So the default of a version stays once it is set (`Extends.defaultFor`), and the plain
  plugins of a version grow at their end (`Extends.plainFor`).
* **Distinct keys** (`distinctKeys_of_lastAnswer`): whether the candidates of every version have
  distinct keys hangs on the answer to the last plain batch alone.
* **Conflicts stay** (`register_ne_none_of_conflict`): behind two plain plugins of one key, every
  plain batch is refused.

`registry_invariant` joins these with the invariant `Sound`.
-/

namespace Scaffolder.Registry

/-! ## Growth -/

/-- Whether a registry holds what another does, in that order, and perhaps more behind it. -/
structure Extends (r r' : Registry) : Prop where
  /-- The plain entries come first in the larger registry. -/
  plain : r.plain <+: r'.plain
  /-- So do the defaults. -/
  defaults : r.defaults <+: r'.defaults

namespace Extends

variable {r r₁ r₂ r₃ : Registry}

/-- A registry extends itself. -/
theorem refl (r : Registry) : r.Extends r := ⟨List.prefix_rfl, List.prefix_rfl⟩

/-- What extends a registry may be extended. -/
theorem trans (h : r₁.Extends r₂) (h' : r₂.Extends r₃) : r₁.Extends r₃ :=
  ⟨h.plain.trans h'.plain, h.defaults.trans h'.defaults⟩

/-- **The plain plugins of a version grow at their end.** -/
theorem plainFor (h : r₁.Extends r₂) (v : ProjectVersion) : r₁.plainFor v <+: r₂.plainFor v :=
  (h.plain.filter _).map _

/-- **A default stays.** It is the first that was stored for its version. -/
theorem defaultFor (h : r₁.Extends r₂) {v : ProjectVersion} {p : Plugin}
    (hp : r₁.defaultFor v = some p) : r₂.defaultFor v = some p := by
  obtain ⟨added, hadded⟩ := h.defaults
  unfold Registry.defaultFor at hp ⊢
  rw [← hadded, List.lookup_append, hp]
  rfl

/-- Keys that are distinct in the larger registry are so in the smaller one. -/
theorem distinctKeys (h : r₁.Extends r₂) (distinct : r₂.DistinctKeys) : r₁.DistinctKeys := by
  intro v
  exact (distinct v).sublist ((h.plainFor v).sublist.map Plugin.key)

/-- So are the versions that have a default. -/
theorem singleDefaults (h : r₁.Extends r₂) (single : r₂.SingleDefaults) : r₁.SingleDefaults :=
  single.sublist (h.defaults.sublist.map Prod.fst)

end Extends

/-- A batch only adds to a registry, whether it is accepted or not. -/
theorem extends_register (r : Registry) (b : Batch) : r.Extends (r.register b).1 := by
  by_cases hb : b.isDefault = true
  · obtain ⟨added, -, hstate, -⟩ := r.register_default hb
    rw [hstate]
    exact ⟨List.prefix_rfl, List.prefix_append _ _⟩
  · rw [r.register_plain (Bool.eq_false_iff.2 hb)]
    exact ⟨List.prefix_append _ _, List.prefix_rfl⟩

/-- **Batches only add to a registry,** whatever becomes of each. -/
theorem extends_afterAll (r : Registry) (bs : List Batch) : r.Extends (r.afterAll bs) := by
  induction bs generalizing r with
  | nil => exact .refl r
  | cons b bs ih =>
    rw [afterAll_cons]
    exact (r.extends_register b).trans (ih _)

/-- Batches can be registered in parts. -/
theorem afterAll_append (r : Registry) (bs later : List Batch) :
    r.afterAll (bs ++ later) = (r.afterAll bs).afterAll later :=
  List.foldl_append

/-! ## Distinct keys -/

/-- The answers to the plain batches among some, in their order. -/
def plainAnswers (r : Registry) : List Batch → List (Option RegistryError)
  | [] => []
  | b :: bs =>
      if b.isDefault then plainAnswers (r.register b).1 bs
      else (r.register b).2 :: plainAnswers (r.register b).1 bs

/-- Later answers come behind earlier ones. -/
theorem plainAnswers_append (r : Registry) (bs later : List Batch) :
    r.plainAnswers (bs ++ later) = r.plainAnswers bs ++ (r.afterAll bs).plainAnswers later := by
  induction bs generalizing r with
  | nil => rfl
  | cons b bs ih =>
    by_cases hb : b.isDefault = true
    · simp [plainAnswers, hb, ih]
    · simp [plainAnswers, hb, ih]

/-- A batch of defaults leaves the plain entries alone. -/
theorem plain_register_default (r : Registry) {b : Batch} (hb : b.isDefault = true) :
    (r.register b).1.plain = r.plain := by
  obtain ⟨added, -, hstate, -⟩ := r.register_default hb
  rw [hstate]

/-- Whether keys are distinct depends on the plain entries alone. -/
theorem distinctKeys_congr {r r' : Registry} (h : r'.plain = r.plain) :
    r'.DistinctKeys ↔ r.DistinctKeys := by
  unfold DistinctKeys plainFor
  rw [h]

/-- **The last plain batch decides about the keys.** If it was accepted, or if there was none, the
plain plugins of every version have distinct keys, whatever became of the batches before it and of
all batches of defaults. -/
theorem distinctKeys_of_lastAnswer {bs : List Batch}
    (last : ∀ e, (plainAnswers {} bs).getLast? ≠ some (some e)) :
    (afterAll {} bs).DistinctKeys := by
  -- The last batch is looked at first: if it is one of defaults, those before it decide.
  induction bs using List.reverseRecOn with
  | nil => exact distinctKeys_empty
  | append_singleton bs b ih =>
    rw [plainAnswers_append] at last
    rw [afterAll_append]
    show ((afterAll {} bs).register b).1.DistinctKeys
    by_cases hb : b.isDefault = true
    · rw [distinctKeys_congr (plain_register_default _ hb)]
      apply ih
      simpa [plainAnswers, hb] using last
    · have hanswer : ((afterAll {} bs).register b).2 = none := by
        rcases h : ((afterAll {} bs).register b).2 with _ | e
        · rfl
        · exact absurd (by simp [plainAnswers, hb, h]) (last e)
      exact conflict?_eq_none_iff.1 (conflict?_register (Bool.eq_false_iff.2 hb) hanswer)

/-- **A conflict stays.** Where two plain plugins of a version have one key, every plain batch is
refused. -/
theorem register_ne_none_of_conflict {r : Registry} (conflict : ¬ r.DistinctKeys) {b : Batch}
    (hb : b.isDefault = false) : (r.register b).2 ≠ none := by
  intro accepted
  have distinct := conflict?_eq_none_iff.1 (conflict?_register hb accepted)
  exact conflict ((r.extends_register b).distinctKeys distinct)

/-! ## Main result -/

/-- **What holds of every registry,** whatever batches it was given and whether they were accepted.

1. A candidate or default of a version has a valid name and a positive version number and supports
   the version, which is well formed.
2. Later batches change no default that is set, and add to the plain plugins of a version only at
   their end.
3. If the last plain batch was accepted, or there was none, the candidates of every version have
   distinct keys.
4. Once two plain plugins of a version have the same key, every later plain batch is refused. -/
theorem registry_invariant (bs : List Batch) :
    (∀ v p, p ∈ (afterAll {} bs).pluginsFor v ∨ (afterAll {} bs).defaultFor v = some p →
      PluginName.validate p.name = .ok () ∧ 0 < p.version.number ∧ v ∈ p.projectVersions ∧
        v.fault? = none) ∧
    (∀ later v,
      (∀ p, (afterAll {} bs).defaultFor v = some p →
        (afterAll {} (bs ++ later)).defaultFor v = some p) ∧
      (afterAll {} bs).plainFor v <+: (afterAll {} (bs ++ later)).plainFor v) ∧
    ((∀ e, (plainAnswers {} bs).getLast? ≠ some (some e)) →
      ∀ v, (((afterAll {} bs).pluginsFor v).map Plugin.key).Nodup) ∧
    (∀ v, ¬ (((afterAll {} bs).plainFor v).map Plugin.key).Nodup →
      ∀ later b, b.isDefault = false → ((afterAll {} (bs ++ later)).register b).2 ≠ none) := by
  have sound := sound_afterAll bs
  have grown : ∀ later, (afterAll {} bs).Extends (afterAll {} (bs ++ later)) := by
    intro later
    rw [afterAll_append]
    exact extends_afterAll _ later
  refine ⟨?_, ?_, ?_, ?_⟩
  · intro v p hp
    have known : p.fault? = none ∧ v ∈ p.projectVersions := by
      rcases hp with hp | hp
      · exact (sound.of_mem_pluginsFor hp).2
      · exact (sound.of_defaultFor hp).2
    obtain ⟨hname, hnumber, hversions⟩ := Plugin.valid_of_fault? known.1
    exact ⟨hname, UInt64.pos_iff_ne_zero.2 hnumber, known.2, hversions v known.2⟩
  · intro later v
    exact ⟨fun p hp => (grown later).defaultFor hp, (grown later).plainFor v⟩
  · intro last v
    exact (distinctKeys_of_lastAnswer last).keys_pluginsFor_nodup v
  · intro v conflict later b hb
    apply register_ne_none_of_conflict _ hb
    intro distinct
    exact conflict ((grown later).distinctKeys distinct v)

/-- Two layouts, a plain batch that is refused for the name of its plugin, and two batches of
defaults of which the second is refused for the first version of its plugin. -/
def unevenBatches : List Batch :=
  [⟨[{ GoLayout.v3Alpha with name := "Go" }], false⟩, ⟨[GoLayout.v2, GoLayout.v3Alpha], false⟩,
    ⟨[{ GoLayout.v2 with serial := 1 }], true⟩, ⟨[GoLayout.v3Alpha], true⟩]

/-- After refused batches of both kinds the keys are distinct and the default is the first that was
set; another layout of a known key then stands in the way of every plain batch. -/
theorem registry_invariant_uneven :
    (∃ e e', plainAnswers {} unevenBatches = [some e, none] ∧
      ((afterAll {} (unevenBatches.take 3)).register ⟨[GoLayout.v3Alpha], true⟩).2 = some e') ∧
    (afterAll {} (unevenBatches.take 3)).defaultFor ⟨"3-alpha"⟩ =
      some { GoLayout.v2 with serial := 1 } ∧
    (afterAll {} (unevenBatches.take 3 ++ unevenBatches.drop 3)).defaultFor ⟨"3-alpha"⟩ =
      some { GoLayout.v2 with serial := 1 } ∧
    (((afterAll {} unevenBatches).pluginsFor ⟨"3-alpha"⟩).map Plugin.key).Nodup ∧
    (⟨"3-alpha"⟩ : ProjectVersion).fault? = none ∧
    ((afterAll {} (unevenBatches ++ [⟨[GoLayout.v2], false⟩] ++ [⟨[], true⟩])).register
      ⟨[], false⟩).2 ≠ none := by
  have set : (afterAll {} (unevenBatches.take 3)).defaultFor ⟨"3-alpha"⟩ =
      some { GoLayout.v2 with serial := 1 } := rfl
  have answer : (plainAnswers {} unevenBatches).getLast? = some none := rfl
  have accepted : ∀ e, (plainAnswers {} unevenBatches).getLast? ≠ some (some e) := by
    intro e
    rw [answer]
    simp
  have conflict : ¬ (((afterAll {} (unevenBatches ++ [⟨[GoLayout.v2], false⟩])).plainFor
      ⟨"3-alpha"⟩).map Plugin.key).Nodup := by decide
  refine ⟨⟨_, _, rfl, rfl⟩, set, ?_, ?_, ?_, ?_⟩
  · exact ((registry_invariant (unevenBatches.take 3)).2.1 (unevenBatches.drop 3) ⟨"3-alpha"⟩).1 _ set
  · exact (registry_invariant unevenBatches).2.2.1 accepted ⟨"3-alpha"⟩
  · exact ((registry_invariant (unevenBatches.take 3)).1 ⟨"3-alpha"⟩ _ (.inr set)).2.2.2
  · exact (registry_invariant (unevenBatches ++ [⟨[GoLayout.v2], false⟩])).2.2.2 ⟨"3-alpha"⟩ conflict
      [⟨[], true⟩] ⟨[], false⟩ rfl

end Scaffolder.Registry
