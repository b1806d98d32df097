import Scaffolder.Config
import Scaffolder.Text.Utf8
import Scaffolder.Yaml.Access
import Scaffolder.Yaml.Value

/-!
# Configurations as documents

How a configuration is written into a document and read from one.

- `Config.toValue` leaves out what is empty: domain, repository, layout, the list of resources,
  and the webhooks of a resource.
- `Config.ofDocument?` puts the empty value back for each field that is left out. A document
  without a version is of the first generation. Fields it does not know are passed over, a field
  given twice is refused.
-/

namespace Scaffolder

open Yaml (Access Document Meaning Node Value)

/-! ## Writing -/

/-- Webhooks as a value. -/
def Webhooks.toValue (w : Webhooks) : Value :=
  .record [("defaulting", .truth w.defaulting), ("validation", .truth w.validation)]

/-- A resource as a value. -/
def Resource.toValue (r : Resource) : Value :=
  .record <|
    [("group", .text r.name.group), ("version", .text r.name.version), ("kind", .text r.name.kind)]
      ++ if r.webhooks.isEmpty then [] else [("webhooks", r.webhooks.toValue)]

/-- A field that is left out where its text is empty. -/
def fieldUnlessEmpty (name text : String) : List (String × Value) :=
  if text.isEmpty then [] else [(name, .text text)]

/-- A configuration as a value. -/
def Config.toValue (c : Config) : Value :=
  .record <|
    ("version", .text c.version.text)
      :: fieldUnlessEmpty "domain" c.domain
      ++ fieldUnlessEmpty "repo" c.repo
      ++ fieldUnlessEmpty "layout" c.layout
      ++ if c.resources.isEmpty then []
        else [("resources", .list (c.resources.map Resource.toValue))]

/-- The text of a configuration's file. -/
def Config.render (c : Config) : String := c.toValue.render

/-! ## Reading -/

/-- The values of all fields of a name. -/
def fieldsNamed (name : String) (fields : List (String × Node)) : List Node :=
  (fields.filter fun f => f.1 = name).map (·.2)

/-- Reads a field. It may be given once; where it is not given it has a default, if there is one. -/
def readField {α : Type} (fields : List (String × Node)) (name : String) (default : Option α)
    (read : Node → Access α) : Access α :=
  match fieldsNamed name fields with
  | [] => default
  | [node] => read node
  | _ => failure

/-- The webhooks that a node records. -/
def Webhooks.ofNode (d : Document) (node : Node) : Access Webhooks := do
  let fields ← d.fields node
  let defaulting ← readField fields "defaulting" (some false) d.truth
  let validation ← readField fields "validation" (some false) d.truth
  pure ⟨defaulting, validation⟩

/-- The resource that a node records. -/
def Resource.ofNode (d : Document) (node : Node) : Access Resource := do
  let fields ← d.fields node
  let group ← readField fields "group" none d.text
  let version ← readField fields "version" none d.text
  let kind ← readField fields "kind" none d.text
  let webhooks ← readField fields "webhooks" (some {}) (Webhooks.ofNode d)
  pure ⟨⟨group, version, kind⟩, webhooks⟩

namespace ProjectVersion

/-- The version of a document that does not say. -/
def unversioned : ProjectVersion := ⟨"1"⟩

/-- The version that is meant by an integer. -/
def ofInteger? (n : Int) : Option ProjectVersion :=
  if 0 ≤ n ∧ n.toNat < Nat.pow 2 64 then some ⟨String.ofList (Nat.toDigits 10 n.toNat)⟩ else none

/-- The version that is meant by a scalar without quotes. -/
def ofPlain? (text : List Char) : Option ProjectVersion :=
  match Meaning.ofPlain text with
  | .text => some ⟨String.ofList text⟩
  | .integer n => ofInteger? n
  | _ => none

/-- The version that is meant by a scalar with a tag of the format. -/
def ofTagged? (tag : Yaml.TagText) (style : Yaml.ScalarStyle) (text : List Char) :
    Option ProjectVersion :=
  if ["bool", "float", "null"].any fun kind => tag = Yaml.standardTag kind then none
  else if tag = Yaml.standardTag "int" then (Meaning.integer? text).bind ofInteger?
  else if tag.head? ≠ some 0x21 then some ⟨String.ofList text⟩
  else if (Text.decode tag).text?.isSome then none
  else if style = .plain then ofPlain? text
  else some ⟨String.ofList text⟩

/-- The version that a node records: a text, or an integer as people write it. -/
def ofNode (d : Document) (node : Node) : Access ProjectVersion := do
  match ← d.follow node with
  | .scalar none .plain text => ofPlain? text
  | .scalar none _ text => pure ⟨String.ofList text⟩
  | .scalar (some tag) style text => ofTagged? tag style text
  | _ => failure

end ProjectVersion

/-- The configuration that the fields of a document record. -/
def Config.ofFields (d : Document) (fields : List (String × Node)) : Access Config := do
  let version ← readField fields "version" (some .unversioned) (ProjectVersion.ofNode d)
  let domain ← readField fields "domain" (some "") d.text
  let repo ← readField fields "repo" (some "") d.text
  let layout ← readField fields "layout" (some "") d.text
  let resources ← readField fields "resources" (some []) fun node => do
    (← d.items node).mapM (Resource.ofNode d)
  pure { version, domain, repo, layout, resources }

/-- The configuration that the root of a document records, if it has one. -/
def Config.ofRoot (d : Document) : Access Config := do
  match d.root with
  | none => Config.ofFields d []
  | some root => Config.ofFields d (← d.fields root)

/-- The configuration that a document records. -/
def Config.ofDocument? (d : Document) : Option Config := (Config.ofRoot d).run' d.allowance

/-- The configuration that a text records. -/
def Config.parse? (text : String) : Option Config := do
  Config.ofDocument? (← Document.parse? text)

end Scaffolder
