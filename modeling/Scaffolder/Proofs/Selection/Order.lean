import Scaffolder.Proofs.Registry.Acceptance
import Scaffolder.Proofs.Selection.Attempts

/-!
# The order of registration

It makes no difference in which order plugins are registered, in which batches they come, and how
batches of defaults and plain ones alternate.

* **Acceptance** (`exists_registerAll_of_perm`): whether all batches are accepted depends on which
  plain plugins and which defaults are in them, each as often as it is.
* **Registries** (`Reordered`): registries with the same entries in another order have the same
  defaults (`Reordered.defaultFor_eq`) and the same candidates, in another order
  (`Reordered.pluginsFor_perm`).
* **Selection** (`Reordered.select_alike`): such registries answer alike (`Alike`): an ambiguous key
  may list its candidates in another order, and all else is the same.

`order_of_registration` puts these together.
-/

namespace Scaffolder

/-! ## Registries in another order -/

namespace Registry

/-- Whether two registries hold the same entries, perhaps in another order. -/
structure Reordered (r r' : Registry) : Prop where
  /-- The plain entries are the same. -/
  plain : r.plain.Perm r'.plain
  /-- So are the defaults. -/
  defaults : r.defaults.Perm r'.defaults

namespace Reordered

variable {r r' : Registry}

/-- The same plain plugins support a version, perhaps in another order. -/
theorem plainFor_perm (h : Reordered r r') (v : ProjectVersion) :
    (r.plainFor v).Perm (r'.plainFor v) :=
  (h.plain.filter _).map _

/-- Defaults that are single stay so. -/
theorem singleDefaults (h : Reordered r r') (single : r.SingleDefaults) : r'.SingleDefaults :=
  (h.defaults.map Prod.fst).nodup_iff.1 single

/-- **Consistency does not depend on the order.** -/
theorem consistent (h : Reordered r r') (consistent : r.Consistent) : r'.Consistent where
  keys v := ((h.plainFor_perm v).map Plugin.key).nodup_iff.1 (consistent.keys v)
  single := h.singleDefaults consistent.single

/-- A version has the same default, since it has only one. -/
theorem defaultFor_eq (h : Reordered r r') (single : r.SingleDefaults) (v : ProjectVersion) :
    r.defaultFor v = r'.defaultFor v := by
  rcases hd : r'.defaultFor v with _ | d
  · rw [defaultFor_eq_none_iff] at hd ⊢
    intro hv
    exact hd ((h.defaults.map Prod.fst).subset hv)
  · have stored := h.defaults.symm.subset (mem_defaults_of_defaultFor hd)
    rcases hd' : r.defaultFor v with _ | d'
    · exact absurd (List.mem_map_of_mem stored) (defaultFor_eq_none_iff.1 hd')
    · rw [single.eq_of_mem (mem_defaults_of_defaultFor hd') stored]

/-- **A version has the same candidates,** perhaps in another order. -/
theorem pluginsFor_perm (h : Reordered r r') (single : r.SingleDefaults) (v : ProjectVersion) :
    (r.pluginsFor v).Perm (r'.pluginsFor v) := by
  have plain := h.plainFor_perm v
  unfold pluginsFor
  rw [← h.defaultFor_eq single v]
  rcases r.defaultFor v with _ | d
  · exact plain
  · have twin : ((r.plainFor v).any fun q => q.key = d.key) =
        (r'.plainFor v).any fun q => q.key = d.key := plain.any_eq
    simp only [← twin]
    split_ifs
    · exact plain
    · exact plain.append_right [d]

end Reordered

/-- Registries that are given the same plugins of each kind hold the same entries. -/
theorem reordered_addingAll {bs bs' : List Batch}
    (plain : (Batch.offered false bs).Perm (Batch.offered false bs'))
    (defaults : (Batch.offered true bs).Perm (Batch.offered true bs')) :
    Reordered (addingAll {} bs) (addingAll {} bs') where
  plain := plain.flatMap_right Plugin.entries
  defaults := defaults.flatMap_right Plugin.entries

end Registry

/-! ## Acceptance -/

namespace Batch

/-- What holds of the plugins of all batches holds of the plain ones and of the defaults. -/
theorem forall_plugins_iff {P : Plugin → Prop} {bs : List Batch} :
    (∀ b ∈ bs, ∀ p ∈ b.plugins, P p) ↔ ∀ isDefault, ∀ p ∈ offered isDefault bs, P p := by
  constructor
  · intro h isDefault p hp
    obtain ⟨b, hb, -, hmem⟩ := mem_offered.1 hp
    exact h b hb p hmem
  · intro h b hb p hp
    exact h b.isDefault p (mem_offered.2 ⟨b, hb, rfl, hp⟩)

end Batch

namespace Registry

/-- **Acceptance does not depend on the order.** Where some batches are accepted, so are others with
the same plugins of each kind, and they lead to the same entries. -/
theorem exists_registerAll_of_perm {bs bs' : List Batch} {r : Registry}
    (offered : ∀ isDefault, (Batch.offered isDefault bs).Perm (Batch.offered isDefault bs'))
    (registered : registerAll {} bs = .ok r) :
    ∃ r', registerAll {} bs' = .ok r' ∧ Reordered r r' ∧ r.SingleDefaults := by
  obtain ⟨valid, rfl, consistent⟩ := (registerAll_eq_ok_iff consistent_empty).1 registered
  have same := reordered_addingAll (offered false) (offered true)
  refine ⟨addingAll {} bs', ?_, same, consistent.single⟩
  refine (registerAll_eq_ok_iff consistent_empty).2 ⟨?_, rfl, same.consistent consistent⟩
  rw [Batch.forall_plugins_iff] at valid ⊢
  intro isDefault p hp
  exact valid isDefault p ((offered isDefault).symm.subset hp)

end Registry

/-! ## Answers -/

/-- Whether two selections come to the same. Where both are ambiguous, they may list the candidates
in another order. -/
inductive Alike : Except SelectError Selection → Except SelectError Selection → Prop
  /-- The same plugin or the same error. -/
  | same (answer : Except SelectError Selection) : Alike answer answer
  /-- The same ambiguous key, with the same candidates. -/
  | ambiguous (key : String) {texts texts' : List String} (h : texts.Perm texts') :
      Alike (.error (.ambiguous key texts)) (.error (.ambiguous key texts'))

namespace Selection

/-- What candidates give that a key fits does not depend on their order, but for the list of an
ambiguous key. -/
theorem ofFitting_alike (key : String) {ps qs : List Plugin} (h : ps.Perm qs) :
    Alike (ofFitting key ps) (ofFitting key qs) := by
  rcases ps with _ | ⟨p, _ | ⟨p', ps⟩⟩
  · rw [List.nil_perm.1 h]
    exact .same _
  · rw [List.singleton_perm.1 h]
    exact .same _
  · rcases qs with _ | ⟨q, _ | ⟨q', qs⟩⟩
    · exact absurd h.length_eq (by simp)
    · exact absurd h.length_eq (by simp)
    · exact .ambiguous key (h.map Plugin.keyText)

/-- A key means the same among the same candidates, or fails for the same reason. -/
theorem ofKey_alike (key : String) {ps qs : List Plugin} (h : ps.Perm qs) :
    Alike (ofKey ps key) (ofKey qs key) := by
  by_cases hname : (splitKey key).1 = ""
  · rw [ofKey_of_no_name hname, ofKey_of_no_name hname]
    exact .same _
  · rw [ofKey_eq_ofFitting hname, ofKey_eq_ofFitting hname]
    exact ofFitting_alike key (h.filter _)

end Selection

namespace Registry.Reordered

variable {r r' : Registry} (h : Reordered r r') (single : r.SingleDefaults)

include h single

/-- **The gate answers the same.** It looks at the default, and at whether there are candidates. -/
theorem gate_eq (q : Request) : q.gate r = q.gate r' := by
  unfold Request.gate
  rw [h.defaultFor_eq single, (h.pluginsFor_perm single q.version).isEmpty_eq]

/-- A key means the same for a version, or fails for the same reason. -/
theorem ofVersionKey_alike (v : ProjectVersion) (key : String) :
    Alike (Selection.ofVersionKey r v key) (Selection.ofVersionKey r' v key) := by
  unfold Selection.ofVersionKey
  rw [← h.defaultFor_eq single]
  rcases Selection.ofKey (r.defaultFor v).toList key with e | s
  · exact Selection.ofKey_alike key (h.pluginsFor_perm single v)
  · exact .same _

/-- **The selection answers alike.** -/
theorem select_alike (q : Request) : Alike (q.select r) (q.select r') := by
  unfold Request.select
  split_ifs with hkey
  · exact h.ofVersionKey_alike single _ _
  · rcases q.layout? with _ | layout
    · rw [← h.defaultFor_eq single]
      exact .same _
    · by_cases hempty : layout.isEmpty = true
      · simp only [hempty, ↓reduceIte]
        exact .same _
      · simp only [hempty, Bool.false_eq_true, ↓reduceIte]
        exact h.ofVersionKey_alike single _ _

end Registry.Reordered

/-! ## Main result -/

namespace Request

/-- **The order of registration makes no difference.** Let two lists of batches offer the same plain
plugins and the same defaults, each as often, in any order, in any batches, and with plain batches
and batches of defaults in any sequence. Then either a batch is refused in both, or all batches are
accepted in both. In the second case every request gets the same answer from the gate, and the same
plugin or the same error from the selection, where the candidates of an ambiguous key may be listed
in another order. -/
theorem order_of_registration {bs bs' : List Batch}
    (plain : (Batch.offered false bs).Perm (Batch.offered false bs'))
    (defaults : (Batch.offered true bs).Perm (Batch.offered true bs')) :
    ((∃ r, Registry.registerAll {} bs = .ok r) ↔ ∃ r', Registry.registerAll {} bs' = .ok r') ∧
      ∀ r r', Registry.registerAll {} bs = .ok r → Registry.registerAll {} bs' = .ok r' →
        ∀ q : Request, q.gate r = q.gate r' ∧ Alike (q.select r) (q.select r') := by
  have offered : ∀ isDefault, (Batch.offered isDefault bs).Perm (Batch.offered isDefault bs') := by
    intro isDefault
    rcases isDefault with _ | _
    · exact plain
    · exact defaults
  refine ⟨⟨?_, ?_⟩, ?_⟩
  · rintro ⟨r, registered⟩
    obtain ⟨r', registered', -⟩ := Registry.exists_registerAll_of_perm offered registered
    exact ⟨r', registered'⟩
  · rintro ⟨r', registered'⟩
    obtain ⟨r, registered, -⟩ :=
      Registry.exists_registerAll_of_perm (fun k => (offered k).symm) registered'
    exact ⟨r, registered⟩
  · intro r r' registered registered' q
    obtain ⟨r₁, registered₁, same, single⟩ :=
      Registry.exists_registerAll_of_perm offered registered
    obtain rfl := Except.ok.inj (registered'.symm.trans registered₁)
    exact ⟨same.gate_eq single q, same.select_alike single q⟩

/-- The layouts in one batch, then a default for version `2` alone. -/
def plainFirst : List Batch :=
  [⟨[GoLayout.v2, GoLayout.v3Alpha], false⟩,
    ⟨[{ GoLayout.v2 with projectVersions := [⟨"2"⟩] }], true⟩]

/-- The same plugins, the default first and the layouts one by one from the last. -/
def defaultFirst : List Batch :=
  [⟨[{ GoLayout.v2 with projectVersions := [⟨"2"⟩] }], true⟩, ⟨[GoLayout.v3Alpha], false⟩,
    ⟨[GoLayout.v2], false⟩]

/-- The name of the layouts is ambiguous in either order, and the candidates are listed as they were
registered. -/
theorem order_of_registration_layouts :
    (Batch.offered false plainFirst).Perm (Batch.offered false defaultFirst) ∧
      (Batch.offered true plainFirst).Perm (Batch.offered true defaultFirst) ∧
      ∃ r r', Registry.registerAll {} plainFirst = .ok r ∧
        Registry.registerAll {} defaultFirst = .ok r' ∧
        (unconfigured ⟨"3-alpha"⟩ "go.scaffold.dev").select r =
          .error (.ambiguous "go.scaffold.dev" [GoLayout.v2.keyText, GoLayout.v3Alpha.keyText]) ∧
        (unconfigured ⟨"3-alpha"⟩ "go.scaffold.dev").select r' =
          .error (.ambiguous "go.scaffold.dev" [GoLayout.v3Alpha.keyText, GoLayout.v2.keyText]) ∧
        Alike ((unconfigured ⟨"3-alpha"⟩ "go.scaffold.dev").select r)
          ((unconfigured ⟨"3-alpha"⟩ "go.scaffold.dev").select r') := by
  have plain : (Batch.offered false plainFirst).Perm (Batch.offered false defaultFirst) :=
    List.Perm.swap _ _ []
  have defaults : (Batch.offered true plainFirst).Perm (Batch.offered true defaultFirst) :=
    List.Perm.refl _
  obtain ⟨bothAccepted, alike⟩ := order_of_registration plain defaults
  obtain ⟨r, registered⟩ := exists_eq_ok (x := Registry.registerAll {} plainFirst) (by decide)
  obtain ⟨r', registered'⟩ := bothAccepted.1 ⟨r, registered⟩
  refine ⟨plain, defaults, r, r', registered, registered', ?_, ?_, ?_⟩
  · obtain ⟨rfl, -⟩ := Registry.afterAll_of_registerAll registered
    rfl
  · obtain ⟨rfl, -⟩ := Registry.afterAll_of_registerAll registered'
    rfl
  · exact (alike r r' registered registered' _).2

end Request

end Scaffolder
