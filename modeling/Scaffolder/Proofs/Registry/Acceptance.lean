import Scaffolder.Proofs.Registry.Growth

/-!
# Which batches are accepted

When a registry accepts all batches that it is given, and what it holds then.

* **One batch** (`register_eq_iff`): it is accepted if none of its plugins has a fault and the registry
  with all their entries is consistent: the plain plugins of a version have distinct keys, and no
  version has two defaults (`Consistent`).
* **All batches** (`registerAll_eq_ok_iff`): the same holds of the plugins of all batches together. So
  it makes no difference to the success of a registration which plugins come in one batch, and which
  batch comes first.

What is consistent at the end was so all the time, since a registry only grows
(`Extends.consistent`). This is why the conditions of the single batches come down to one.
-/

namespace Scaffolder

/-- The plugins of all batches of one kind, in the order in which they come. -/
def Batch.offered (isDefault : Bool) (bs : List Batch) : List Plugin :=
  (bs.filter fun b => b.isDefault = isDefault).flatMap Batch.plugins

/-- What is offered as defaults, or not, is what such batches hold. -/
theorem Batch.mem_offered {isDefault : Bool} {bs : List Batch} {p : Plugin} :
    p ∈ offered isDefault bs ↔ ∃ b ∈ bs, b.isDefault = isDefault ∧ p ∈ b.plugins := by
  simp [offered, and_assoc]

/-- A batch is offered before later batches of its kind. -/
theorem Batch.offered_cons_self (b : Batch) (bs : List Batch) :
    offered b.isDefault (b :: bs) = b.plugins ++ offered b.isDefault bs := by
  simp [offered]

/-- A batch of the other kind offers nothing. -/
theorem Batch.offered_cons_of_ne {b : Batch} {isDefault : Bool} (bs : List Batch)
    (h : b.isDefault ≠ isDefault) : offered isDefault (b :: bs) = offered isDefault bs := by
  simp [offered, h]

namespace Registry

/-- The registry with all entries of some plugins behind those that it has. -/
def adding (r : Registry) (isDefault : Bool) (ps : List Plugin) : Registry :=
  if isDefault then { r with defaults := r.defaults ++ ps.flatMap Plugin.entries }
  else { r with plain := r.plain ++ ps.flatMap Plugin.entries }

/-- Adding plugins only adds entries. -/
theorem extends_adding (r : Registry) (isDefault : Bool) (ps : List Plugin) :
    r.Extends (r.adding isDefault ps) := by
  by_cases h : isDefault = true
  · simp only [adding, h, ↓reduceIte]
    exact ⟨List.prefix_rfl, List.prefix_append _ _⟩
  · simp only [adding, h, Bool.false_eq_true, ↓reduceIte]
    exact ⟨List.prefix_append _ _, List.prefix_rfl⟩

/-- Plugins can be added in parts. -/
theorem adding_append (r : Registry) (isDefault : Bool) (ps qs : List Plugin) :
    r.adding isDefault (ps ++ qs) = (r.adding isDefault ps).adding isDefault qs := by
  by_cases h : isDefault = true
  · simp [adding, h]
  · simp [adding, h]

/-- Plain plugins and defaults do not get in each other's way. -/
theorem adding_comm (r : Registry) (ps qs : List Plugin) :
    (r.adding false ps).adding true qs = (r.adding true qs).adding false ps := rfl

/-- Whether no two plain plugins of a version have the same key, and no version has two defaults. -/
structure Consistent (r : Registry) : Prop where
  /-- The plain plugins of a version have distinct keys. -/
  keys : r.DistinctKeys
  /-- No version has two defaults. -/
  single : r.SingleDefaults

/-- A registry without entries is consistent. -/
theorem consistent_empty : Consistent {} := ⟨distinctKeys_empty, List.nodup_nil⟩

/-- What is consistent was so before. -/
theorem Extends.consistent {r r' : Registry} (h : r.Extends r') (consistent : r'.Consistent) :
    r.Consistent :=
  ⟨h.distinctKeys consistent.keys, h.singleDefaults consistent.single⟩

/-! ## One batch -/

/-- **A plugin claims the default of all its versions** exactly if none of them has one, also not by
the plugin itself. -/
theorem addDefault_eq_iff {r r' : Registry} (single : r.SingleDefaults) {p : Plugin}
    {vs : List ProjectVersion} :
    r.addDefault p vs = (r', none) ↔
      r' = { r with defaults := r.defaults ++ vs.map fun v => (v, p) } ∧ r'.SingleDefaults := by
  induction vs generalizing r with
  | nil =>
    simp only [addDefault, Prod.mk.injEq, and_true, List.map_nil, List.append_nil]
    constructor
    · rintro rfl
      exact ⟨rfl, single⟩
    · rintro ⟨rfl, -⟩
      rfl
  | cons v vs ih =>
    rcases hv : r.defaultFor v with _ | existing
    · simp only [addDefault, hv, ih (single.append hv p)]
      simp
    · simp only [addDefault, hv, Prod.mk.injEq, reduceCtorEq, and_false, false_iff]
      rintro ⟨rfl, both⟩
      -- the default that is there and the one that is claimed
      have old : v ∈ r.defaults.map Prod.fst := by
        by_contra h
        rw [defaultFor_eq_none_iff.2 h] at hv
        cases hv
      unfold SingleDefaults at both
      rw [List.map_append] at both
      exact List.disjoint_of_nodup_append both old (by simp)

/-- **Plain plugins are added** exactly if none of them has a fault. -/
theorem addAll_false_eq_iff {r r' : Registry} {ps : List Plugin} :
    addAll false r ps = (r', none) ↔ (∀ p ∈ ps, p.fault? = none) ∧ r' = r.adding false ps := by
  induction ps generalizing r with
  | nil => simp [addAll, adding, eq_comm]
  | cons p ps ih =>
    rcases hf : p.fault? with _ | fault
    · simp only [addAll, hf, Bool.false_eq_true, ↓reduceIte, ih, List.forall_mem_cons, true_and]
      simp [adding, addPlain, Plugin.entries]
    · simp [addAll, hf]

/-- **Defaults are added** exactly if none of them has a fault and no version gets two. -/
theorem addAll_true_eq_iff {r r' : Registry} (single : r.SingleDefaults) {ps : List Plugin} :
    addAll true r ps = (r', none) ↔
      (∀ p ∈ ps, p.fault? = none) ∧ r' = r.adding true ps ∧ r'.SingleDefaults := by
  induction ps generalizing r with
  | nil =>
    simp only [addAll, Prod.mk.injEq, and_true, List.not_mem_nil, false_imp_iff, implies_true,
      true_and, adding, ↓reduceIte, List.flatMap_nil, List.append_nil]
    constructor
    · rintro rfl
      exact ⟨rfl, single⟩
    · rintro ⟨rfl, -⟩
      rfl
  | cons p ps ih =>
    rcases hf : p.fault? with _ | fault
    · have first : r.adding true (p :: ps) =
          adding { r with defaults := r.defaults ++ p.entries } true ps := by
        simp [adding]
      rw [first, List.forall_mem_cons]
      constructor
      · intro h
        rcases hadd : r.addDefault p p.projectVersions with ⟨r₁, _ | e⟩
        · obtain ⟨rfl, single₁⟩ := (addDefault_eq_iff single).1 hadd
          simp only [addAll, hf, ↓reduceIte, hadd] at h
          obtain ⟨hps, hr, hsingle⟩ := (ih single₁).1 h
          exact ⟨⟨hf, hps⟩, hr, hsingle⟩
        · simp [addAll, hf, hadd] at h
      · rintro ⟨⟨-, hps⟩, rfl, hsingle⟩
        have single₁ : SingleDefaults { r with defaults := r.defaults ++ p.entries } :=
          (extends_adding _ _ _).singleDefaults hsingle
        have hadd := (addDefault_eq_iff single).2 ⟨rfl, single₁⟩
        simp only [addAll, hf, ↓reduceIte, hadd]
        exact (ih single₁).2 ⟨hps, rfl, hsingle⟩
    · simp [addAll, hf]

/-- A batch is accepted if all its plugins are and, after a plain one, the keys are distinct. -/
theorem register_eq_none_iff {r r' : Registry} {b : Batch} :
    r.register b = (r', none) ↔
      addAll b.isDefault r b.plugins = (r', none) ∧ (b.isDefault = false → r'.DistinctKeys) := by
  unfold register
  rcases addAll b.isDefault r b.plugins with ⟨r₁, _ | e⟩
  · by_cases hb : b.isDefault = true
    · simp [hb]
    · simp only [hb, Bool.false_eq_true, ↓reduceIte, Prod.mk.injEq, conflict?_eq_none_iff, and_true,
        forall_const]
      constructor
      · rintro ⟨rfl, distinct⟩
        exact ⟨rfl, distinct⟩
      · rintro ⟨rfl, distinct⟩
        exact ⟨rfl, distinct⟩
  · simp

/-- **When a batch is accepted,** and what the registry holds then. -/
theorem register_eq_iff {r r' : Registry} (consistent : r.Consistent) {b : Batch} :
    r.register b = (r', none) ↔
      (∀ p ∈ b.plugins, p.fault? = none) ∧ r' = r.adding b.isDefault b.plugins ∧
        r'.Consistent := by
  rw [register_eq_none_iff]
  by_cases hb : b.isDefault = true
  · rw [hb, addAll_true_eq_iff consistent.single]
    constructor
    · rintro ⟨⟨hps, rfl, single⟩, -⟩
      exact ⟨hps, rfl, consistent.keys, single⟩
    · rintro ⟨hps, rfl, consistent'⟩
      exact ⟨⟨hps, rfl, consistent'.single⟩, fun h => by cases h⟩
  · rw [Bool.not_eq_true] at hb
    rw [hb, addAll_false_eq_iff]
    constructor
    · rintro ⟨⟨hps, rfl⟩, distinct⟩
      exact ⟨hps, rfl, distinct rfl, consistent.single⟩
    · rintro ⟨hps, rfl, consistent'⟩
      exact ⟨⟨hps, rfl⟩, fun _ => consistent'.keys⟩

/-! ## All batches -/

/-- The registry with the entries of all plugins in some batches. -/
def addingAll (r : Registry) (bs : List Batch) : Registry :=
  (r.adding false (Batch.offered false bs)).adding true (Batch.offered true bs)

/-- The first batch is added, and then the others. -/
theorem addingAll_cons (r : Registry) (b : Batch) (bs : List Batch) :
    r.addingAll (b :: bs) = (r.adding b.isDefault b.plugins).addingAll bs := by
  unfold addingAll
  by_cases hb : b.isDefault = true
  · have plain : Batch.offered false (b :: bs) = Batch.offered false bs :=
      Batch.offered_cons_of_ne bs (by simp [hb])
    have defaults := b.offered_cons_self bs
    rw [hb] at defaults
    rw [plain, defaults, hb, adding_append, adding_comm, adding_comm]
  · rw [Bool.not_eq_true] at hb
    have plain := b.offered_cons_self bs
    have defaults : Batch.offered true (b :: bs) = Batch.offered true bs :=
      Batch.offered_cons_of_ne bs (by simp [hb])
    rw [hb] at plain
    rw [plain, defaults, hb, adding_append]

/-- Adding batches only adds entries. -/
theorem extends_addingAll (r : Registry) (bs : List Batch) : r.Extends (r.addingAll bs) :=
  (extends_adding _ _ _).trans (extends_adding _ _ _)

/-- **When all batches are accepted,** and what the registry holds then: no plugin has a fault, and
the registry with the entries of all plugins is consistent. -/
theorem registerAll_eq_ok_iff {r r' : Registry} (consistent : r.Consistent) {bs : List Batch} :
    registerAll r bs = .ok r' ↔
      (∀ b ∈ bs, ∀ p ∈ b.plugins, p.fault? = none) ∧ r' = r.addingAll bs ∧ r'.Consistent := by
  induction bs generalizing r with
  | nil =>
    have none : r.addingAll [] = r := by simp [addingAll, adding, Batch.offered]
    rw [none]
    constructor
    · intro h
      obtain rfl := Except.ok.inj h
      exact ⟨by simp, rfl, consistent⟩
    · rintro ⟨-, rfl, -⟩
      rfl
  | cons b bs ih =>
    rw [addingAll_cons, List.forall_mem_cons]
    constructor
    · intro h
      unfold registerAll at h
      rcases hb : r.register b with ⟨r₁, _ | e⟩
      · obtain ⟨hplugins, rfl, consistent₁⟩ := (register_eq_iff consistent).1 hb
        rw [hb] at h
        obtain ⟨hbs, hr, consistent'⟩ := (ih consistent₁).1 h
        exact ⟨⟨hplugins, hbs⟩, hr, consistent'⟩
      · simp [hb] at h
    · rintro ⟨⟨hplugins, hbs⟩, rfl, consistent'⟩
      have consistent₁ := (extends_addingAll _ bs).consistent consistent'
      have hb := (register_eq_iff consistent).2 ⟨hplugins, rfl, consistent₁⟩
      unfold registerAll
      rw [hb]
      exact (ih consistent₁).2 ⟨hbs, rfl, consistent'⟩

end Registry

end Scaffolder
