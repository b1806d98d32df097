import Scaffolder.ProjectVersion
import Scaffolder.Text.Blank
import Scaffolder.Text.Quoted

/-!
# The project configuration

What a project's file records: the schema version, domain, repository and layout of the project,
and its API resources with their webhooks.

- `Config.effectiveLayout` is the layout key that counts: versions without layouts have none.
- `Config.addResource` and `Config.updateWebhooks` are the only ways in which resources change;
  the latter reaches the first resource of the given group, version and kind.
-/

namespace Scaffolder

/-- The webhooks of a resource. -/
structure Webhooks where
  /-- A webhook that fills in defaults. -/
  defaulting : Bool := false
  /-- A webhook that checks. -/
  validation : Bool := false
  deriving DecidableEq, Repr, Inhabited

namespace Webhooks

/-- Whether there is no webhook. -/
def isEmpty (w : Webhooks) : Bool := !w.defaulting && !w.validation

/-- The webhooks of either. -/
def union (v w : Webhooks) : Webhooks :=
  ⟨v.defaulting || w.defaulting, v.validation || w.validation⟩

/-- The description of some webhooks. -/
def describe (w : Webhooks) : String :=
  Text.showRecord "Webhooks"
    [("defaulting", Text.showBool w.defaulting), ("validation", Text.showBool w.validation)]

end Webhooks

/-- What names a resource: its API group, the version in it and the kind. -/
structure ResourceName where
  /-- The API group. -/
  group : String
  /-- The version of the group. -/
  version : String
  /-- The kind. -/
  kind : String
  deriving DecidableEq, Repr, Inhabited

namespace ResourceName

/-- How messages name a resource. -/
def text (n : ResourceName) : String :=
  n.group ++ "/" ++ n.version ++ ", Kind=" ++ n.kind

end ResourceName

/-- An API resource of a project. -/
structure Resource where
  /-- Its name. -/
  name : ResourceName
  /-- Its webhooks. -/
  webhooks : Webhooks := {}
  deriving DecidableEq, Repr, Inhabited

namespace Resource

/-- The description of a resource. -/
def describe (r : Resource) : String :=
  Text.showRecord "Resource"
    [("group", Text.quoted r.name.group), ("version", Text.quoted r.name.version),
      ("kind", Text.quoted r.name.kind), ("webhooks", r.webhooks.describe)]

end Resource

/-- The contents of a project's file. -/
structure Config where
  /-- The schema version. -/
  version : ProjectVersion
  /-- The domain of the API groups, empty if there is none. -/
  domain : String := ""
  /-- The repository, empty if there is none. -/
  repo : String := ""
  /-- The key of the plugin that made the project, as written. -/
  layout : String := ""
  /-- The resources, in the order in which they were recorded. -/
  resources : List Resource := []
  deriving DecidableEq, Repr, Inhabited

namespace ProjectVersion

/-- The description of a version. -/
def describe (v : ProjectVersion) : String :=
  "ProjectVersion(" ++ Text.quoted v.text ++ ")"

end ProjectVersion

namespace Config

/-- Whether the project is of the first, no longer supported generation. -/
def isLegacy (c : Config) : Bool := c.version.isLegacy

/-- Whether the project's schema records a layout key. -/
def supportsLayout (c : Config) : Bool := c.version.supportsLayout

/-- The layout key that counts: trimmed, and empty where the schema has none. -/
def effectiveLayout (c : Config) : String :=
  if c.supportsLayout then Text.trim c.layout else ""

/-- Whether a resource of this name is recorded. -/
def hasResource (c : Config) (name : ResourceName) : Bool :=
  c.resources.any fun r => r.name = name

/-- Records a resource without webhooks after all others. -/
def addResource (c : Config) (name : ResourceName) : Config :=
  { c with resources := c.resources ++ [⟨name, {}⟩] }

/-- Changes the first element that a test accepts. -/
def modifyFirst (p : Resource → Bool) (f : Resource → Resource) : List Resource → List Resource
  | [] => []
  | r :: rs => if p r then f r :: rs else r :: modifyFirst p f rs

/-- Changes the webhooks of the first resource of this name. -/
def updateWebhooks (c : Config) (name : ResourceName) (f : Webhooks → Webhooks) : Config :=
  { c with
    resources := modifyFirst (fun r => r.name = name)
      (fun r => { r with webhooks := f r.webhooks }) c.resources }

/-- The description of a configuration. -/
def describe (c : Config) : String :=
  Text.showRecord "ProjectConfig"
    [("version", c.version.describe), ("domain", Text.quoted c.domain),
      ("repo", Text.quoted c.repo), ("layout", Text.quoted c.layout),
      ("resources", Text.showList (c.resources.map Resource.describe))]

end Config

end Scaffolder
