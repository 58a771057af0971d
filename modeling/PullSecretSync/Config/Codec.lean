import PullSecretSync.Config.Basic

/-!
# Documents of the samples configuration

The document of a configuration always carries its kind. An empty list of conditions, an empty
message and absent values are not written and are restored on reading.
-/

namespace PullSecretSync

namespace ManagementState

/-- The document of a state. -/
def encode (state : ManagementState) : Json := .str state.text

/-- The state of a document. -/
def decoder : Decoder ManagementState := ofText <$> .text

end ManagementState

namespace InstallType

/-- The name of a distribution. -/
def text : InstallType → String
  | .centos => "centos"
  | .rhel => "rhel"

/-- The document of a distribution. -/
def encode (type : InstallType) : Json := .str type.text

/-- The distribution of a document. -/
def decoder : Decoder InstallType := .variant [("centos", .centos), ("rhel", .rhel)]

end InstallType

namespace ConditionStatus

/-- The name of a status. -/
def text : ConditionStatus → String
  | .holds => "True"
  | .fails => "False"
  | .unknown => "Unknown"

/-- The document of a status. -/
def encode (status : ConditionStatus) : Json := .str status.text

/-- The status of a document. -/
def decoder : Decoder ConditionStatus :=
  .variant [("True", .holds), ("False", .fails), ("Unknown", .unknown)]

end ConditionStatus

namespace Condition

/-- The document of a time, with the fraction of its second. -/
def encodeTime (time : Instant) : Json := .str (Rfc3339.format time)

/-- The document of a condition. -/
def encode (condition : Condition) : Json :=
  .obj (Json.optional "lastTransitionTime" (condition.lastTransition.map encodeTime) ++
    Json.optional "lastUpdateTime" (condition.lastUpdate.map encodeTime) ++
    Json.optional "message"
      (if condition.message = "" then none else some (.str condition.message)) ++
    [("status", condition.status.encode), ("type", .str condition.type)])

/-- The fields of a condition. -/
def fields : Fields Condition :=
  Condition.mk <$>
    .required "type" .text <*>
    .required "status" ConditionStatus.decoder <*>
    .optional "lastUpdateTime" .time <*>
    .optional "lastTransitionTime" .time <*>
    .defaulted "message" .text ""

/-- The condition of a document. -/
def decoder : Decoder Condition := .record "struct SamplesConfigCondition" fields

end Condition

namespace ConfigSpec

/-- The document of a specification. -/
def encode (spec : ConfigSpec) : Json :=
  .obj ([("installType", spec.installType.encode),
      ("managementState", spec.managementState.encode)] ++
    Json.optional "samplesRegistry" (spec.samplesRegistry.map .str))

/-- The fields of a specification. -/
def fields : Fields ConfigSpec :=
  ConfigSpec.mk <$>
    .defaulted "managementState" ManagementState.decoder .managed <*>
    .defaulted "installType" InstallType.decoder .centos <*>
    .optional "samplesRegistry" .text

/-- The specification of a document. -/
def decoder : Decoder ConfigSpec := .record "struct ConfigSpec" fields

end ConfigSpec

namespace ConfigStatus

/-- The document of a status. -/
def encode (status : ConfigStatus) : Json :=
  .obj (Json.optional "conditions"
      (if status.conditions.isEmpty then none
        else some (Json.ofList Condition.encode status.conditions)) ++
    Json.optional "version" (status.version.map .str))

/-- The fields of a status. -/
def fields : Fields ConfigStatus :=
  ConfigStatus.mk <$>
    .defaulted "conditions" (.list Condition.decoder) [] <*>
    .optional "version" .text

/-- The status of a document. -/
def decoder : Decoder ConfigStatus := .record "struct SamplesConfigStatus" fields

end ConfigStatus

namespace Config

/-- The group of the configuration's kind. -/
def group : String := "samples.operator.openshift.io"

/-- The version of the configuration's kind. -/
def version : String := "v1"

/-- The name of the configuration's kind. -/
def kind : String := "Config"

/-- The lower-case name of the kind, for several objects. -/
def plural : String := "configs"

/-- The document of a configuration. -/
def encode (config : Config) : Json :=
  .obj ([("apiVersion", .str (group ++ "/" ++ version)), ("kind", .str kind),
      ("metadata", config.metadata.encode), ("spec", config.spec.encode)] ++
    Json.optional "status" (config.status.map ConfigStatus.encode))

/-- The fields of a configuration. -/
def fields : Fields Config :=
  Config.mk <$>
    .required "metadata" ObjectMeta.decoder <*>
    .required "spec" ConfigSpec.decoder <*>
    .optional "status" ConfigStatus.decoder

/-- The configuration of a document. -/
def decoder : Decoder Config := .record "struct Config" fields

end Config

end PullSecretSync
