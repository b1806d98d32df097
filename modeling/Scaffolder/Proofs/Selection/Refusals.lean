import Scaffolder.Proofs.Selection.Attempts

/-!
# What the selection refuses after the gate

The gate checks a request before a plugin is selected for it. The selection relies on that, and what
it can still refuse hangs on what governs the request.

* **The gate** (`of_gate`): a request that it lets through has a default where only that can be meant,
  and a well-formed key if it has one on the command line. Such a key has a name
  (`name_ne_empty_of_gateKey`).
* **A key with a name** (`ofVersionKey_outcomes`) selects, or nothing fits it, or several plugins do.
  A key has no name exactly if it is empty or starts with a slash (`splitKey_fst_eq_empty_iff`).

`select_after_gate` goes through the three things that can govern a request: a key on the command
line, a layout, or nothing but the default.
-/

namespace Scaffolder

/-- A key has no name if it is empty or starts with its slash. -/
theorem splitKey_fst_eq_empty_iff {key : String} :
    (splitKey key).1 = "" ↔ key = "" ∨ key.toList.head? = some '/' := by
  unfold splitKey
  rcases hcut : Text.cutAt '/' key.toList with _ | ⟨name, version⟩
  · have hslash := Text.cutAt_eq_none_iff.1 hcut
    constructor
    · exact .inl
    · rintro (hempty | hhead)
      · exact hempty
      · exact absurd (List.mem_of_mem_head? hhead) hslash
  · obtain ⟨hkey, hslash⟩ := Text.cutAt_eq_some_iff.1 hcut
    have hne : key ≠ "" := by
      rintro rfl
      simp at hkey
    rw [hkey, or_iff_right hne]
    cases name with
    | nil => simp
    | cons c name =>
      have hc : c ≠ '/' := fun heq => hslash (heq ▸ List.mem_cons_self)
      simp [String.ofList_eq_empty_iff, hc]

namespace Selection

/-- **What comes of a key with a name.** It selects, or no plugin fits it, or several do. -/
theorem ofVersionKey_outcomes {r : Registry} {v : ProjectVersion} {key : String}
    (hname : (splitKey key).1 ≠ "") :
    (∃ s, ofVersionKey r v key = .ok s) ∨ ofVersionKey r v key = .error (.noMatch key) ∨
      ∃ texts, ofVersionKey r v key = .error (.ambiguous key texts) := by
  unfold ofVersionKey
  rcases ofKey (r.defaultFor v).toList key with e | s
  · rw [ofKey_eq_ofFitting hname]
    rcases (r.pluginsFor v).filter (fits (splitKey key).1 (splitKey key).2) with _ | ⟨p, _ | ⟨q, ps⟩⟩
    · exact .inr (.inl rfl)
    · exact .inl ⟨single p, rfl⟩
    · exact .inr (.inr ⟨_, rfl⟩)
  · exact .inl ⟨s, rfl⟩

/-- A key without a name fails at both attempts. -/
theorem ofVersionKey_of_no_name {r : Registry} {v : ProjectVersion} {key : String}
    (hname : (splitKey key).1 = "") : ofVersionKey r v key = .error (.emptyName key) := by
  unfold ofVersionKey
  rw [ofKey_of_no_name hname, ofKey_of_no_name hname]

/-- **A key fails for want of a name** exactly if it has none. -/
theorem ofVersionKey_eq_emptyName_iff {r : Registry} {v : ProjectVersion} {key k : String} :
    ofVersionKey r v key = .error (.emptyName k) ↔ k = key ∧ (splitKey key).1 = "" := by
  by_cases hname : (splitKey key).1 = ""
  · rw [ofVersionKey_of_no_name hname]
    simp [hname, eq_comm]
  · have hne : ofVersionKey r v key ≠ .error (.emptyName k) := by
      rcases ofVersionKey_outcomes (r := r) (v := v) hname with ⟨s, h⟩ | h | ⟨texts, h⟩
      all_goals simp [h]
    simp [hname, hne]

/-- No key fails for want of a layout or of a default. -/
theorem ofVersionKey_ne {r : Registry} {v w : ProjectVersion} {key : String} :
    ofVersionKey r v key ≠ .error (.missingLayout w) ∧
      ofVersionKey r v key ≠ .error (.noDefault w) := by
  by_cases hname : (splitKey key).1 = ""
  · simp [ofVersionKey_of_no_name hname]
  · rcases ofVersionKey_outcomes (r := r) (v := v) hname with ⟨s, h⟩ | h | ⟨texts, h⟩
    all_goals simp [h]

end Selection

namespace Request

/-! ## The gate -/

/-- A key that the gate lets through has a name. -/
theorem name_ne_empty_of_gateKey {key : String} (h : gateKey key = .ok ()) :
    (splitKey key).1 ≠ "" := by
  unfold gateKey at h
  rcases hsplit : splitKey key with ⟨name, version⟩
  rw [hsplit] at h
  simp only at h
  rcases hvalid : PluginName.validate name with cause | _
  · rw [hvalid] at h
    cases h
  · exact PluginName.ne_empty_of_validate hvalid

/-- **What the gate lets through.** -/
theorem of_gate {q : Request} {r : Registry} (passed : q.gate r = .ok ()) :
    (q.requiresDefault = true → ∃ d, r.defaultFor q.version = some d) ∧
      (q.hasKey = true → gateKey q.key = .ok ()) := by
  unfold gate at passed
  rcases hversion : q.version.fault? with _ | cause
  · simp only [hversion] at passed
    split_ifs at passed with hplugins hdefault hkey
    · refine ⟨fun only => ?_, fun _ => passed⟩
      unfold requiresDefault at only
      rw [hkey] at only
      cases only
    · refine ⟨fun only => ?_, fun has => absurd has hkey⟩
      rw [only, Bool.true_and, Option.isNone_iff_eq_none] at hdefault
      exact Option.ne_none_iff_exists'.1 hdefault
  · simp [hversion] at passed

/-- **What governs a request** is its key, or without one the layout of its project. -/
theorem governingKey?_of_blank {q : Request} (blank : q.key = "") : q.governingKey? = q.layout? := by
  unfold governingKey?
  rw [hasKey_of_blank blank]
  rfl

/-- A project with layouts has the one that it records. -/
theorem layout?_of_supportsLayout {q : Request} {c : Config} (project : q.config = some c)
    (layouts : c.supportsLayout = true) : q.layout? = some (Text.trim c.layout) := by
  unfold layout? Config.effectiveLayout
  rw [project]
  simp [layouts]

/-- Without such a project there is no layout. -/
theorem layout?_eq_none {q : Request}
    (nolayouts : ∀ c, q.config = some c → c.supportsLayout = false) : q.layout? = none := by
  unfold layout?
  rw [Option.map_eq_none_iff, Option.filter_eq_none_iff]
  intro c project
  rw [nolayouts c project]
  exact Bool.false_ne_true

/-! ## Main result -/

/-- **What can still go wrong after the gate.** Let the gate let a request through.

1. With a key on the command line the selection succeeds, or no plugin fits the key, or several do;
   and it comes out the same whatever layout the project has.
2. Without one, in a project whose version has layouts, the layout is missing exactly if it is blank,
   and has no name exactly if it starts with a slash, blanks aside. It is never the default that is
   missing, and a blank layout selects nothing, so not the default either.
3. Else the selection is the default of the version.

This holds of every request, also of one whose version is not that of its project. -/
theorem select_after_gate {r : Registry} {q : Request} (passed : q.gate r = .ok ()) :
    (q.key ≠ "" →
      ((∃ s, q.select r = .ok s) ∨ q.select r = .error (.noMatch q.key) ∨
        ∃ texts, q.select r = .error (.ambiguous q.key texts)) ∧
      ∀ layout, select { q with config := q.config.map fun c => { c with layout } } r =
        q.select r) ∧
    (∀ c, q.key = "" → q.config = some c → c.supportsLayout = true →
      (∀ v, q.select r = .error (.missingLayout v) ↔ v = q.version ∧ Text.trim c.layout = "") ∧
      (∀ key, q.select r = .error (.emptyName key) ↔
        key = Text.trim c.layout ∧ (Text.trim c.layout).toList.head? = some '/') ∧
      (∀ v, q.select r ≠ .error (.noDefault v)) ∧
      (Text.trim c.layout = "" → ∀ s, q.select r ≠ .ok s)) ∧
    (q.key = "" → (∀ c, q.config = some c → c.supportsLayout = false) →
      ∃ d, r.defaultFor q.version = some d ∧ q.select r = .ok (.single d)) := by
  obtain ⟨hdefault, hgate⟩ := of_gate passed
  refine ⟨?_, ?_, ?_⟩
  · intro hkey
    have hname := name_ne_empty_of_gateKey (hgate (hasKey_iff.2 hkey))
    rw [select_of_governingKey? (governingKey?_of_key hkey) hkey]
    refine ⟨Selection.ofVersionKey_outcomes hname, fun layout => ?_⟩
    exact select_of_governingKey? (governingKey?_of_key hkey) hkey
  · intro c blank project layouts
    have hgov : q.governingKey? = some (Text.trim c.layout) := by
      rw [governingKey?_of_blank blank, layout?_of_supportsLayout project layouts]
    by_cases hlayout : Text.trim c.layout = ""
    · rw [hlayout] at hgov
      rw [select_of_blank_layout r hgov, hlayout]
      simp [eq_comm]
    · rw [select_of_governingKey? hgov hlayout]
      refine ⟨fun v => ?_, fun key => ?_, fun v => Selection.ofVersionKey_ne.2, ?_⟩
      · simp [hlayout, Selection.ofVersionKey_ne.1]
      · rw [Selection.ofVersionKey_eq_emptyName_iff, splitKey_fst_eq_empty_iff, or_iff_right hlayout]
      · intro hblank
        exact absurd hblank hlayout
  · intro blank nolayouts
    have hnone : q.layout? = none := layout?_eq_none nolayouts
    have only : q.requiresDefault = true := by
      unfold requiresDefault
      rw [hasKey_of_blank blank, hnone]
      rfl
    obtain ⟨d, hd⟩ := hdefault only
    exact ⟨d, hd, select_of_default (governingKey?_of_requiresDefault only) hd⟩

/-- The gate lets a project through whose layout has no name, although its version has a default. -/
theorem select_after_gate_slash :
    let q := configured { version := ⟨"3-alpha"⟩, layout := " /v2" } " "
    q.gate (Registry.afterAll {} twinBatches) = .ok () ∧
      q.select (Registry.afterAll {} twinBatches) = .error (.emptyName "/v2") := by
  intro q
  have passed : q.gate (Registry.afterAll {} twinBatches) = .ok () := by decide
  obtain ⟨-, layouts, -⟩ := select_after_gate passed
  obtain ⟨-, slash, -⟩ := layouts _ (by decide) rfl (by decide)
  exact ⟨passed, (slash "/v2").2 (by decide)⟩

end Request

end Scaffolder
