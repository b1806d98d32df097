import Scaffolder.Proofs.Selection.KeyCheck
import Scaffolder.Proofs.Selection.Refusals

/-!
# What a spelling selects

A key that the gate lets through can be read as a plugin key, which has one text but can be spelled in
other ways too (`PluginKey.Spells`). The selection compares texts, so a spelling matters.

* **Matches** (`Selection.ofVersionKey_naming`): keys that are cut into the same parts match the same
  plugins. No plugin matches a padded version (`Selection.ofVersionKey_of_padded`).

`select_spelling` puts a key and the text of what it is read as side by side.
-/

namespace Scaffolder

/-! ## Matches -/

/-- A selection error as it reads for another spelling of the key. -/
def SelectError.naming (key : String) : SelectError → SelectError
  | .emptyName _ => .emptyName key
  | .noMatch _ => .noMatch key
  | .ambiguous _ candidates => .ambiguous key candidates
  | .missingLayout version => .missingLayout version
  | .noDefault version => .noDefault version

namespace Selection

/-- Keys that are split in the same way mean the same, and a refusal names the key as it is spelled. -/
theorem ofKey_naming {key key' : String} (h : splitKey key' = splitKey key)
    (candidates : List Plugin) :
    ofKey candidates key' = (ofKey candidates key).mapError (SelectError.naming key') := by
  by_cases hname : (splitKey key).1 = ""
  · rw [ofKey_of_no_name hname, ofKey_of_no_name (h ▸ hname)]
    rfl
  · rw [ofKey_eq_ofFitting hname, ofKey_eq_ofFitting (h ▸ hname), h]
    rcases candidates.filter (fits (splitKey key).1 (splitKey key).2) with _ | ⟨p, _ | ⟨q, ps⟩⟩
    · rfl
    · rfl
    · rfl

/-- **Keys that are cut into the same parts** match the same plugins, and fail for the same reason. -/
theorem ofVersionKey_naming {key key' : String} (h : splitKey key' = splitKey key) (r : Registry)
    (v : ProjectVersion) :
    ofVersionKey r v key' = (ofVersionKey r v key).mapError (SelectError.naming key') := by
  unfold ofVersionKey
  rw [ofKey_naming h (r.defaultFor v).toList, ofKey_naming h (r.pluginsFor v)]
  rcases ofKey (r.defaultFor v).toList key with e | s
  · rfl
  · rfl

/-- **No plugin matches a padded version.** -/
theorem ofVersionKey_of_padded {key : String} {k : PluginKey} (h : k.Spells key)
    (padded : PluginVersion.isPadded (splitKey key).2 = true) (r : Registry) (v : ProjectVersion) :
    ofVersionKey r v key = .error (.noMatch key) := by
  have hname : (splitKey key).1 ≠ "" := by
    rw [h.name]
    exact PluginName.ne_empty_of_validate h.valid
  have hversion : (splitKey key).2 ≠ "" := by
    intro hempty
    rw [hempty] at padded
    cases padded
  have unfit : ∀ p, fits (splitKey key).1 (splitKey key).2 p = false := by
    intro p
    rw [Bool.eq_false_iff]
    intro hfit
    obtain ⟨-, hempty | htext⟩ := fits_iff.1 hfit
    · exact hversion hempty
    · rcases h.version with ⟨hempty, -⟩ | ⟨w, -, hparse⟩
      · exact hversion hempty
      · exact PluginVersion.text_ne_of_padded hparse padded p.version htext
  have hnone : (r.pluginsFor v).filter (fits (splitKey key).1 (splitKey key).2) = [] := by
    apply List.filter_eq_nil_iff.2
    intro p _
    simp [unfit p]
  rw [ofVersionKey_of_default_unfit fun d _ => unfit d, ofKey_eq_ofFitting hname, hnone]
  rfl

end Selection

namespace Request

/-- What the gate checks where the command line has a key does not hang on the key but for its form. -/
theorem gate_of_gateKey {q : Request} {r : Registry} (passed : q.gate r = .ok ())
    (present : q.hasKey = true) {key : String} (hne : key ≠ "") (wellFormed : gateKey key = .ok ()) :
    gate { q with key } r = .ok () := by
  have present' : hasKey { q with key } = true := hasKey_iff.2 hne
  unfold gate requiresDefault at passed ⊢
  rcases hversion : q.version.fault? with _ | cause
  · simp only [hversion, present, present', Bool.not_true, Bool.false_and, Bool.false_eq_true,
      ↓reduceIte] at passed ⊢
    split_ifs at passed ⊢ with hplugins
    exact wellFormed
  · simp [hversion] at passed

/-! ## Main result -/

/-- **What a spelling of a key selects.** Let a request with a key on the command line pass the gate.
Then the key is read as a plugin key, and the text of that plugin key passes the gate too.

1. A key whose version number has no leading zero selects what that text selects: the same plugin, or
   the same error with the other spelling in it. Blanks around the key and a slash behind a bare name
   make no difference.
2. A key whose version number has a leading zero selects nothing, since no plugin fits it.
3. So a key never selects another plugin than the text of what it is read as. -/
theorem select_spelling {r : Registry} {q : Request} {t : String} (given : q.key = Text.trim t)
    (present : q.hasKey = true) (passed : q.gate r = .ok ()) :
    ∃ k, PluginKey.parse t = .ok k ∧
      gate { q with key := Text.trim k.text } r = .ok () ∧
      (PluginVersion.isPadded (splitKey q.key).2 = false →
        select { q with key := Text.trim k.text } r = (q.select r).mapError (.naming k.text)) ∧
      (PluginVersion.isPadded (splitKey q.key).2 = true → q.select r = .error (.noMatch q.key)) ∧
      ∀ s, q.select r = .ok s → select { q with key := Text.trim k.text } r = .ok s := by
  obtain ⟨k, spells⟩ := PluginKey.gateKey_eq_ok_iff.1 ((of_gate passed).2 present)
  have hne : q.key ≠ "" := hasKey_iff.1 present
  have hne' : k.text ≠ "" := by
    intro hempty
    have hname := name_ne_empty_of_gateKey (PluginKey.gateKey_eq_ok_iff.2 ⟨k, spells.proper.spells_text⟩)
    exact hname (splitKey_fst_eq_empty_iff.2 (.inl hempty))
  have hselect : q.select r = Selection.ofVersionKey r q.version q.key :=
    select_of_governingKey? (governingKey?_of_key hne) hne
  have hselect' : select { q with key := k.text } r = Selection.ofVersionKey r q.version k.text :=
    select_of_governingKey? (governingKey?_of_key hne') hne'
  have htrim : Text.trim k.text = k.text := spells.proper.trim_text
  have unpadded : PluginVersion.isPadded (splitKey q.key).2 = false →
      select { q with key := k.text } r = (q.select r).mapError (.naming k.text) := by
    intro h
    rw [hselect, hselect']
    exact Selection.ofVersionKey_naming (spells.splitKey_text h) r q.version
  have padded : PluginVersion.isPadded (splitKey q.key).2 = true →
      q.select r = .error (.noMatch q.key) := by
    intro h
    rw [hselect]
    exact Selection.ofVersionKey_of_padded spells h r q.version
  refine ⟨k, PluginKey.parse_eq_ok_iff.2 (given ▸ spells), ?_⟩
  rw [htrim]
  refine ⟨?_, unpadded, padded, ?_⟩
  · exact gate_of_gateKey passed present hne' (PluginKey.gateKey_eq_ok_iff.2 ⟨k, spells.proper.spells_text⟩)
  · intro s selected
    cases hpadded : PluginVersion.isPadded (splitKey q.key).2 with
    | false =>
      rw [unpadded hpadded, selected]
      rfl
    | true =>
      rw [padded hpadded] at selected
      cases selected

/-- A key with blanks around it, which fits none but the default of the two plugins of its name. -/
theorem select_spelling_blanks :
    let q := unconfigured ⟨"3-alpha"⟩ " go.scaffold.dev/ "
    ∃ k s, PluginKey.parse " go.scaffold.dev/ " = .ok k ∧
      q.select (Registry.afterAll {} twinBatches) = .ok s ∧
      select { q with key := Text.trim k.text } (Registry.afterAll {} twinBatches) = .ok s := by
  intro q
  obtain ⟨s, selected⟩ := exists_eq_ok (x := q.select (Registry.afterAll {} twinBatches)) (by decide)
  have passed : q.gate (Registry.afterAll {} twinBatches) = .ok () := by decide
  obtain ⟨k, hparse, -, -, -, same⟩ :=
    select_spelling (t := " go.scaffold.dev/ ") rfl (by decide) passed
  exact ⟨k, s, hparse, selected, same s selected⟩

/-- The version with a leading zero is read as the version of a plugin, which the text of that version
selects, but selects nothing itself. -/
theorem spelling_with_leading_zero :
    let q := unconfigured ⟨"2"⟩ "go.scaffold.dev/v02"
    Registry.PlainAccepted {} twinBatches ∧
      (Registry.afterAll {} twinBatches).pluginsFor ⟨"2"⟩ ≠ [] ∧
      q.gate (Registry.afterAll {} twinBatches) = .ok () ∧
      ∃ k s, PluginKey.parse "go.scaffold.dev/v02" = .ok k ∧ k.text = "go.scaffold.dev/v2" ∧
        select { q with key := Text.trim k.text } (Registry.afterAll {} twinBatches) = .ok s ∧
        q.select (Registry.afterAll {} twinBatches) = .error (.noMatch "go.scaffold.dev/v02") := by
  intro q
  have accepted : Registry.PlainAccepted {} twinBatches := by
    refine ⟨fun _ => ?_, fun _ => ?_, trivial⟩
    · rfl
    · rfl
  obtain ⟨s, selected⟩ := exists_eq_ok (x := (unconfigured ⟨"2"⟩ "go.scaffold.dev/v2").select
    (Registry.afterAll {} twinBatches)) (by decide)
  obtain ⟨k, spells⟩ := PluginKey.gateKey_eq_ok_iff.1
    (show gateKey "go.scaffold.dev/v02" = .ok () by decide)
  have unmatched := Selection.ofVersionKey_of_padded spells (by decide)
    (Registry.afterAll {} twinBatches) ⟨"2"⟩
  have governed : q.governingKey? = some "go.scaffold.dev/v02" := by decide
  refine ⟨accepted, List.cons_ne_nil _ _, by decide, ⟨"go.scaffold.dev", some ⟨2, .stable⟩⟩, s, ?_⟩
  exact ⟨by decide, by decide, selected, (select_of_governingKey? governed (by decide)).trans unmatched⟩

end Request

end Scaffolder
