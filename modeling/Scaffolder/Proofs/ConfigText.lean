import Scaffolder.Config.Document
import Scaffolder.Proofs.Yaml.Document

/-!
# A configuration is read back from its text

Saving a configuration and loading it gives back the same configuration, whatever its texts are
(`Config.parse?_render`).

A written document has no aliases, so every reading of it uses up nothing of its allowance and is
`pure`. What is left out where it is empty is read as its default, which is the empty value.
-/

namespace Scaffolder

open Yaml (Access Document Meaning Node Value IsFieldName Writing styleOf)
open Yaml.Value (ProperFields)

/-! ## Reading nodes -/

/-- Fields as nodes. -/
def nodesOf (fields : List (String × Value)) : List (String × Node) :=
  fields.map fun f => (f.1, f.2.node)

/-- The nodes of items are made one by one. -/
theorem itemNodes_eq (items : List Value) : Value.itemNodes items = items.map Value.node := by
  induction items with
  | nil => rw [Value.itemNodes, List.map_nil]
  | cons item items ih => rw [Value.itemNodes, ih, List.map_cons]

/-- A scalar without an anchor is read as its text, in whatever style it is written. -/
theorem text_scalar (d : Document) (style : Yaml.ScalarStyle) (s : String) :
    d.text (.scalar none style s.toList) = pure s := by
  show (pure (String.ofList s.toList) : Access String) = pure s
  rw [String.ofList_toList]

/-- A text is read back. -/
theorem text_node (d : Document) (s : String) : d.text (Value.text s).node = pure s := by
  rw [Value.node]
  exact text_scalar d _ s

/-- A truth value is read back. -/
theorem truth_node (d : Document) (b : Bool) : d.truth (Value.truth b).node = pure b := by
  rw [Value.node]
  cases b with
  | true => rfl
  | false => rfl

/-- The items of a list are read back. -/
theorem items_node (d : Document) (items : List Value) :
    d.items (Value.list items).node = pure (items.map Value.node) := by
  rw [Value.node, itemNodes_eq]
  rfl

/-- The fields of a record are read back. -/
theorem fields_node (d : Document) (fields : List (String × Value)) :
    d.fields (Value.record fields).node = pure (nodesOf fields) := by
  rw [Value.node]
  show List.mapM (m := Access) _ (Value.fieldNodes fields) = _
  induction fields with
  | nil =>
    rw [Value.fieldNodes]
    rfl
  | cons field fields ih =>
    rw [Value.fieldNodes, List.mapM_cons, ih]
    simp only [text_scalar, pure_bind]
    rfl

/-- The version of a configuration is read back: a text that is written without quotes means no
number. -/
theorem version_node (d : Document) (v : ProjectVersion) :
    ProjectVersion.ofNode d (Value.text v.text).node = pure v := by
  rw [Value.node]
  unfold styleOf
  have hquoted : (pure ⟨String.ofList v.text.toList⟩ : Access ProjectVersion) = pure v := by
    rw [String.ofList_toList]
  cases hwriting : Writing.of v.text.toList with
  | plain =>
    have hmeaning := (Writing.of_eq_plain hwriting).2
    show ((ProjectVersion.ofPlain? v.text.toList : Option ProjectVersion) : Access ProjectVersion) = _
    unfold ProjectVersion.ofPlain?
    rw [hmeaning, String.ofList_toList]
    rfl
  | single => exact hquoted
  | double => exact hquoted
  | lines => exact hquoted

/-! ## Reading fields -/

/-- The fields of a name come in the order in which fields are put together. -/
theorem fieldsNamed_append (name : String) (fields fields' : List (String × Node)) :
    fieldsNamed name (fields ++ fields') = fieldsNamed name fields ++ fieldsNamed name fields' := by
  unfold fieldsNamed
  rw [List.filter_append, List.map_append]

/-- A text that is not empty has one field of its name. -/
theorem fieldsNamed_fieldUnlessEmpty (name text : String) :
    fieldsNamed name (nodesOf (fieldUnlessEmpty name text)) =
      if text.isEmpty then [] else [(Value.text text).node] := by
  unfold fieldUnlessEmpty
  split
  · rfl
  · simp [fieldsNamed, nodesOf]

/-- A text has no field of another name. -/
theorem fieldsNamed_of_ne {name other : String} (h : other ≠ name) (text : String) :
    fieldsNamed name (nodesOf (fieldUnlessEmpty other text)) = [] := by
  unfold fieldUnlessEmpty
  split
  · rfl
  · simp [fieldsNamed, nodesOf, h]

/-- A field that is left out where it is empty is read as it was. -/
theorem readField_unlessEmpty {d : Document} {fields : List (String × Node)} {name text : String}
    (h : fieldsNamed name fields = if text.isEmpty then [] else [(Value.text text).node]) :
    readField fields name (some "") d.text = pure text := by
  unfold readField
  by_cases hempty : text.isEmpty
  · rw [h, if_pos hempty, String.isEmpty_iff.1 hempty]
    rfl
  · rw [h, if_neg hempty]
    exact text_node d text

/-- Webhooks that have no field are what is read where there is no field. -/
theorem Webhooks.eq_of_isEmpty {w : Webhooks} (h : w.isEmpty = true) : w = {} := by
  obtain ⟨defaulting, validation⟩ := w
  cases defaulting with
  | true => cases h
  | false =>
    cases validation with
    | true => cases h
    | false => rfl

/-- **Webhooks are read back,** also where no flag is written. -/
theorem webhooks_node (d : Document) (w : Webhooks) : Webhooks.ofNode d w.toValue.node = pure w := by
  unfold Webhooks.ofNode Webhooks.toValue
  rw [fields_node]
  simp only [pure_bind, readField, fieldsNamed, nodesOf]
  simp [truth_node]

/-- **A resource is read back,** also where it has no webhooks. -/
theorem resource_node (d : Document) (r : Resource) : Resource.ofNode d r.toValue.node = pure r := by
  unfold Resource.ofNode Resource.toValue
  rw [fields_node]
  by_cases h : r.webhooks.isEmpty
  · have hnone : r.webhooks = {} := Webhooks.eq_of_isEmpty h
    obtain ⟨⟨group, version, kind⟩, webhooks⟩ := r
    obtain rfl : webhooks = {} := hnone
    simp only [pure_bind, readField, fieldsNamed, nodesOf, h]
    simp [text_node]
    rfl
  · simp only [pure_bind, readField, fieldsNamed, nodesOf, h]
    simp [text_node, webhooks_node]

/-- All resources are read back, in their order. -/
theorem resources_node (d : Document) (resources : List Resource) :
    ((resources.map Resource.toValue).map Value.node).mapM (Resource.ofNode d) = pure resources := by
  induction resources with
  | nil => rfl
  | cons r resources ih =>
    rw [List.map_cons, List.map_cons, List.mapM_cons, resource_node, ih]
    rfl

/-! ## Whole configurations -/

namespace Config

/-- The field of the resources, unless there are none. -/
def resourcesField (resources : List Resource) : List (String × Value) :=
  if resources.isEmpty then [] else [("resources", .list (resources.map Resource.toValue))]

/-- The fields that a configuration is written as. -/
def toFields (c : Config) : List (String × Value) :=
  ("version", .text c.version.text)
    :: fieldUnlessEmpty "domain" c.domain
    ++ fieldUnlessEmpty "repo" c.repo
    ++ fieldUnlessEmpty "layout" c.layout
    ++ resourcesField c.resources

/-- What is recorded under a name, part by part. -/
theorem fieldsNamed_toFields (name : String) (c : Config) :
    fieldsNamed name (nodesOf c.toFields) =
      fieldsNamed name [("version", (Value.text c.version.text).node)] ++
        fieldsNamed name (nodesOf (fieldUnlessEmpty "domain" c.domain)) ++
        fieldsNamed name (nodesOf (fieldUnlessEmpty "repo" c.repo)) ++
        fieldsNamed name (nodesOf (fieldUnlessEmpty "layout" c.layout)) ++
        fieldsNamed name (nodesOf (resourcesField c.resources)) := by
  have hnodes : nodesOf c.toFields = [("version", (Value.text c.version.text).node)] ++
      nodesOf (fieldUnlessEmpty "domain" c.domain) ++ nodesOf (fieldUnlessEmpty "repo" c.repo) ++
        nodesOf (fieldUnlessEmpty "layout" c.layout) ++ nodesOf (resourcesField c.resources) := by
    unfold toFields nodesOf
    simp only [List.map_append, List.map_cons, List.cons_append, List.nil_append]
  rw [hnodes, fieldsNamed_append, fieldsNamed_append, fieldsNamed_append, fieldsNamed_append]

/-- Resources have no field of another name. -/
theorem fieldsNamed_resourcesField {name : String} (h : "resources" ≠ name)
    (resources : List Resource) : fieldsNamed name (nodesOf (resourcesField resources)) = [] := by
  unfold resourcesField
  split
  · rfl
  · simp [fieldsNamed, nodesOf, h]

/-- The version has no field of another name. -/
theorem fieldsNamed_version_of_ne {name : String} (h : "version" ≠ name) (node : Node) :
    fieldsNamed name [("version", node)] = [] := by
  simp [fieldsNamed, h]

/-- The version is read back. It always has a field, so the default is never taken for it. -/
theorem readField_version (d : Document) (c : Config) :
    readField (nodesOf c.toFields) "version" (some .unversioned) (ProjectVersion.ofNode d) =
      pure c.version := by
  have hnamed : fieldsNamed "version" (nodesOf c.toFields) = [(Value.text c.version.text).node] := by
    simp (disch := decide) only [fieldsNamed_toFields, fieldsNamed_of_ne,
      fieldsNamed_resourcesField, List.append_nil]
    rfl
  unfold readField
  rw [hnamed]
  exact version_node d c.version

/-- The resources are read back. Where there are none they have no field, and none are read. -/
theorem readField_resources (d : Document) (c : Config) :
    readField (nodesOf c.toFields) "resources" (some []) (fun node => do
      (← d.items node).mapM (Resource.ofNode d)) = pure c.resources := by
  have hnamed : fieldsNamed "resources" (nodesOf c.toFields) =
      fieldsNamed "resources" (nodesOf (resourcesField c.resources)) := by
    simp (disch := decide) only [fieldsNamed_toFields, fieldsNamed_of_ne,
      fieldsNamed_version_of_ne, List.nil_append]
  unfold readField
  rw [hnamed]
  unfold resourcesField
  by_cases hempty : c.resources.isEmpty
  · rw [if_pos hempty, List.isEmpty_iff.1 hempty]
    rfl
  · rw [if_neg hempty]
    show (d.items (Value.list (c.resources.map Resource.toValue)).node >>= fun items =>
      items.mapM (Resource.ofNode d)) = pure c.resources
    rw [items_node, pure_bind]
    exact resources_node d c.resources

/-- The texts of a configuration, by the names they are recorded under. -/
theorem readField_text (d : Document) (c : Config) {name text : String}
    (h : (name, text) ∈ [("domain", c.domain), ("repo", c.repo), ("layout", c.layout)]) :
    readField (nodesOf c.toFields) name (some "") d.text = pure text := by
  apply readField_unlessEmpty
  simp only [List.mem_cons, Prod.mk.injEq, List.not_mem_nil, or_false] at h
  rcases h with ⟨rfl, rfl⟩ | ⟨rfl, rfl⟩ | ⟨rfl, rfl⟩
  all_goals
    simp (disch := decide) only [fieldsNamed_toFields, fieldsNamed_fieldUnlessEmpty,
      fieldsNamed_of_ne, fieldsNamed_resourcesField, fieldsNamed_version_of_ne, List.append_nil,
      List.nil_append]

/-- **The fields of a configuration are read back.** -/
theorem ofFields_toFields (d : Document) (c : Config) :
    Config.ofFields d (nodesOf c.toFields) = pure c := by
  unfold Config.ofFields
  rw [readField_version, readField_text d c (by simp : ("domain", c.domain) ∈ _),
    readField_text d c (by simp : ("repo", c.repo) ∈ _),
    readField_text d c (by simp : ("layout", c.layout) ∈ _), readField_resources]
  rfl

/-! ## The text of a configuration -/

/-- The field of a text can be written, if its name can. -/
theorem properFields_unlessEmpty {name : String} (h : IsFieldName name.toList) (text : String) :
    ProperFields (fieldUnlessEmpty name text) := by
  unfold fieldUnlessEmpty
  split
  · exact .nil
  · exact .cons h (.text text) .nil

/-- Webhooks can be written. -/
theorem proper_webhooks (w : Webhooks) : w.toValue.Proper := by
  have hfields := ProperFields.cons (show IsFieldName "defaulting".toList by decide)
    (.truth w.defaulting) (.cons (show IsFieldName "validation".toList by decide)
      (.truth w.validation) .nil)
  exact hfields.record (List.cons_ne_nil _ _)

/-- A resource can be written. -/
theorem proper_resource (r : Resource) : r.toValue.Proper := by
  have hname := ProperFields.cons (show IsFieldName "group".toList by decide) (.text r.name.group)
    (.cons (show IsFieldName "version".toList by decide) (.text r.name.version)
      (.cons (show IsFieldName "kind".toList by decide) (.text r.name.kind) .nil))
  refine (hname.append ?_).record (by simp)
  split
  · exact .nil
  · exact .cons (show IsFieldName "webhooks".toList by decide) (proper_webhooks r.webhooks) .nil

/-- The field of the resources can be written. -/
theorem properFields_resourcesField (resources : List Resource) :
    ProperFields (resourcesField resources) := by
  unfold resourcesField
  split
  · exact .nil
  · next hne =>
    refine .cons (show IsFieldName "resources".toList by decide) (.list ?_ ?_) .nil
    · intro hnil
      rw [List.map_eq_nil_iff] at hnil
      exact hne (List.isEmpty_iff.2 hnil)
    · intro item hitem
      obtain ⟨r, _, rfl⟩ := List.mem_map.1 hitem
      exact proper_resource r

/-- All fields of a configuration can be written. -/
theorem properFields_toFields (c : Config) : ProperFields c.toFields := by
  have hversion := ProperFields.cons (show IsFieldName "version".toList by decide)
    (.text c.version.text) .nil
  have hdomain := properFields_unlessEmpty (show IsFieldName "domain".toList by decide) c.domain
  have hrepo := properFields_unlessEmpty (show IsFieldName "repo".toList by decide) c.repo
  have hlayout := properFields_unlessEmpty (show IsFieldName "layout".toList by decide) c.layout
  exact (((hversion.append hdomain).append hrepo).append hlayout).append
    (properFields_resourcesField c.resources)

/-- **A configuration is read back from its text.** -/
theorem parse?_render (c : Config) : Config.parse? c.render = some c := by
  have hdocument := Document.parse?_render (c.properFields_toFields.record (List.cons_ne_nil _ _))
  have hroot : Config.ofRoot ⟨some (Value.record c.toFields).node, []⟩ = pure c := by
    show (Document.fields _ (Value.record c.toFields).node >>= Config.ofFields _) = pure c
    rw [fields_node, pure_bind]
    exact ofFields_toFields _ c
  have hrender : c.render = (Value.record c.toFields).render := rfl
  unfold Config.parse?
  rw [hrender, hdocument, Option.bind_eq_bind, Option.bind_some]
  unfold Config.ofDocument?
  rw [hroot]
  rfl

end Config

end Scaffolder
