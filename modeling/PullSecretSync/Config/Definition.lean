import PullSecretSync.Config.Codec

/-!
# The definition of the configuration's kind

The document by which a cluster learns about configurations: their names, their scope and the
schema of their fields.
-/

namespace PullSecretSync.Config

/-- The lower-case name of the kind, for one object. -/
def singular : String := "config"

namespace Schema

/-- The schema of a text. -/
def text : Json := .obj [("type", .str "string")]

/-- The schema of a text that may be null. -/
def nullableText : Json := .obj [("nullable", .bool true), ("type", .str "string")]

/-- The schema of a time that may be null. -/
def nullableTime : Json :=
  .obj [("format", .str "date-time"), ("nullable", .bool true), ("type", .str "string")]

/-- The schema of the distribution. -/
def installType : Json :=
  .obj [("default", InstallType.centos.encode),
    ("description", .str "Content distribution installed by the operator"),
    ("enum", .arr [InstallType.centos.encode, InstallType.rhel.encode]),
    ("type", .str "string")]

/-- The schema of the management state, which may be any text. -/
def managementState : Json :=
  .obj [("default", ManagementState.managed.encode), ("type", .str "string")]

/-- The schema of a specification. -/
def spec : Json :=
  .obj [("properties", .obj [("installType", installType), ("managementState", managementState),
      ("samplesRegistry", nullableText)]),
    ("type", .str "object")]

/-- The schema of a condition. -/
def condition : Json :=
  .obj [("properties", .obj [("lastTransitionTime", nullableTime),
      ("lastUpdateTime", nullableTime),
      ("message", text),
      ("status", .obj [("enum", .arr [ConditionStatus.holds.encode, ConditionStatus.fails.encode,
          ConditionStatus.unknown.encode]),
        ("type", .str "string")]),
      ("type", text)]),
    ("required", .arr [.str "status", .str "type"]),
    ("type", .str "object")]

/-- The schema of a status. -/
def status : Json :=
  .obj [("nullable", .bool true),
    ("properties", .obj [
      ("conditions", .obj [("items", condition), ("type", .str "array")]),
      ("version", nullableText)]),
    ("type", .str "object")]

/-- The schema of a configuration. -/
def config : Json :=
  .obj [("description", .str "Auto-generated derived type for ConfigSpec via `CustomResource`"),
    ("properties", .obj [("spec", spec), ("status", status)]),
    ("required", .arr [.str "spec"]),
    ("title", .str kind),
    ("type", .str "object")]

end Schema

/-- The definition of the kind. -/
def definition : Json :=
  .obj [("apiVersion", .str "apiextensions.k8s.io/v1"),
    ("kind", .str "CustomResourceDefinition"),
    ("metadata", .obj [("name", .str (plural ++ "." ++ group))]),
    ("spec", .obj [("group", .str group),
      ("names", .obj [("categories", .arr []), ("kind", .str kind), ("plural", .str plural),
        ("shortNames", .arr []), ("singular", .str singular)]),
      ("scope", .str "Cluster"),
      ("versions", .arr [.obj [("additionalPrinterColumns", .arr []),
        ("name", .str version),
        ("schema", .obj [("openAPIV3Schema", Schema.config)]),
        ("served", .bool true),
        ("storage", .bool true),
        ("subresources", .obj [("status", .obj [])])]])])]

end PullSecretSync.Config
