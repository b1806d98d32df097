import Scaffolder.Proofs.Project
import Scaffolder.Proofs.Selection

/-!
# A project file holds its configuration

Saving loses nothing of a configuration, and adds nothing to the file when it is done again.

* **The file** (`save_eq_ok_iff`): a save that succeeds is a write of the configuration's text.
* **What is left out** (`Config.hasField_toValue`, `Resource.hasField_toValue`): an empty text, an
  empty list of resources and webhooks that are not set have no field. The version always has one, so
  that it is never taken for the version of a document that does not say.
* **The round** (`save_load_save`): what is saved is loaded, and saving it again writes the same text.

The first half rests on a text being read as it was written (`Config.parse?_render`), the second on a
write leaving no trace of the write before it (`Directory.write_write`).
-/

namespace Scaffolder

open Yaml (Value)

/-! ## Fields -/

/-- Whether a value is a record with a field of a name. -/
def Yaml.Value.HasField (name : String) : Value → Prop
  | .record fields => name ∈ fields.map Prod.fst
  | _ => False

/-- A text has a field if it is not empty. -/
theorem mem_names_unlessEmpty {name other text : String} :
    name ∈ (fieldUnlessEmpty other text).map Prod.fst ↔ name = other ∧ text ≠ "" := by
  unfold fieldUnlessEmpty
  by_cases h : text = ""
  · simp [h]
  · simp [h]

/-- The resources have a field if there are any. -/
theorem mem_names_resourcesField {name : String} {resources : List Resource} :
    name ∈ (Config.resourcesField resources).map Prod.fst ↔ name = "resources" ∧ resources ≠ [] := by
  unfold Config.resourcesField
  cases resources with
  | nil => simp
  | cons r resources => simp

/-- **What is recorded of a configuration:** its version, and all else that is not empty. -/
theorem Config.hasField_toValue (c : Config) (name : String) :
    c.toValue.HasField name ↔ name = "version" ∨ (name = "domain" ∧ c.domain ≠ "") ∨
      (name = "repo" ∧ c.repo ≠ "") ∨ (name = "layout" ∧ c.layout ≠ "") ∨
      (name = "resources" ∧ c.resources ≠ []) := by
  change name ∈ c.toFields.map Prod.fst ↔ _
  unfold Config.toFields
  simp only [List.cons_append, List.map_cons, List.map_append, List.mem_cons, List.mem_append,
    mem_names_unlessEmpty, mem_names_resourcesField, or_assoc]

/-- **What is recorded of a resource:** its name, and its webhooks if one is set. -/
theorem Resource.hasField_toValue (r : Resource) (name : String) :
    r.toValue.HasField name ↔ name = "group" ∨ name = "version" ∨ name = "kind" ∨
      (name = "webhooks" ∧ r.webhooks ≠ {}) := by
  unfold Resource.toValue
  by_cases h : r.webhooks = {}
  · simp [Value.HasField, h, Webhooks.isEmpty]
  · have hset : r.webhooks.isEmpty = false :=
      Bool.eq_false_iff.2 fun hempty => h (Webhooks.eq_of_isEmpty hempty)
    simp [Value.HasField, h, hset]

/-- Configurations that differ are written differently. -/
theorem Config.render_injective : Function.Injective Config.render := by
  intro c c' h
  have hparse : Config.parse? c.render = Config.parse? c'.render := congrArg Config.parse? h
  rw [c.parse?_render, c'.parse?_render] at hparse
  exact Option.some.inj hparse

/-! ## Files -/

namespace ConfigFile

variable {d d' : Directory} {root : String} {c : Config}

/-- A save of a project that was just saved replaces what was written. -/
theorem save_save (h : save d root c = .ok d') (c' : Config) : save d' root c' = save d root c' := by
  have hwrite := Directory.write_write (save_eq_ok_iff.1 h) c'.render
  unfold save
  rw [hwrite]

/-- **A project file holds its configuration.** Where a configuration is saved:

1. Loading it gives back the configuration, with every text as it was, the version among them.
2. The file is the text of the configuration: a record of its version and of what else is not empty,
   in which a resource without webhooks has no field for them. So all that is skipped is empty in the
   configuration that is loaded.
3. Saving whatever is loaded writes the same text, and leaves the directory as it is.
4. No other configuration is written as this text, so none can be mistaken for it. -/
theorem save_load_save (saved : save d root c = .ok d') :
    load d' root = .ok (some c) ∧
    (d'.read (path root) = .ok c.toValue.render ∧
      (∀ name, c.toValue.HasField name ↔ name = "version" ∨ (name = "domain" ∧ c.domain ≠ "") ∨
        (name = "repo" ∧ c.repo ≠ "") ∨ (name = "layout" ∧ c.layout ≠ "") ∨
        (name = "resources" ∧ c.resources ≠ [])) ∧
      ∀ r ∈ c.resources, r.toValue.HasField "webhooks" ↔ r.webhooks ≠ {}) ∧
    (∀ loaded, load d' root = .ok (some loaded) →
      loaded.render = c.render ∧ save d' root loaded = .ok d') ∧
    ∀ other, d'.read (path root) = .ok other.render → other = c := by
  have hload := load_save saved
  have hread : d'.read (path root) = .ok c.render := Directory.read_write (save_eq_ok_iff.1 saved)
  refine ⟨hload, ⟨hread, c.hasField_toValue, ?_⟩, ?_, ?_⟩
  · intro r _
    rw [r.hasField_toValue]
    simp
  · intro loaded hloaded
    obtain rfl : loaded = c := load_inj hloaded hload
    exact ⟨rfl, (save_save saved loaded).trans saved⟩
  · intro other hother
    apply Config.render_injective
    exact Except.ok.inj (hother.symm.trans hread)

/-- A project of the second generation with a repository that looks like a number, no domain and no
layout. One of its resources has webhooks. -/
def mixed : Config where
  version := ⟨"2"⟩
  repo := "0x10"
  resources := [⟨⟨"", "1", "true"⟩, {}⟩, ⟨⟨"ships", "v1", "Frigate"⟩, { validation := true }⟩]

/-- The project `mixed` is saved in an empty directory, loaded as it was and saved again. -/
theorem save_load_save_mixed : ∃ d', save {} "." mixed = .ok d' ∧
    load d' "." = .ok (some mixed) ∧ save d' "." mixed = .ok d' := by
  obtain ⟨d', saved⟩ := exists_eq_ok (x := save {} "." mixed) (by decide)
  obtain ⟨hload, -, hagain, -⟩ := save_load_save saved
  exact ⟨d', saved, hload, (hagain mixed hload).2⟩

end ConfigFile

end Scaffolder
