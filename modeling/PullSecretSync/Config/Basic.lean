import PullSecretSync.Object.Meta

/-!
# The samples configuration

The cluster-scoped object that says how samples are managed and which distribution they come
from, and that carries the conditions found so far.
-/

namespace PullSecretSync

/-- How an administrator wants samples to be managed. A value other than the three known ones is
kept as it is. -/
inductive ManagementState where
  | managed
  | unmanaged
  | removed
  | unrecognized (value : String)
  deriving DecidableEq, Repr

namespace ManagementState

/-- The state that a text names. -/
def ofText (text : String) : ManagementState :=
  if text = "Managed" then .managed
  else if text = "Unmanaged" then .unmanaged
  else if text = "Removed" then .removed
  else .unrecognized text

/-- The text of a state. -/
def text : ManagementState → String
  | .managed => "Managed"
  | .unmanaged => "Unmanaged"
  | .removed => "Removed"
  | .unrecognized value => value

/-- Every text is kept. -/
@[simp] theorem text_ofText (value : String) : (ofText value).text = value := by
  unfold ofText
  repeat' split
  all_goals simp [text, *]

end ManagementState

/-- The content distribution that samples come from. -/
inductive InstallType where
  | centos
  | rhel
  deriving DecidableEq, Repr

/-- Whether a condition holds. -/
inductive ConditionStatus where
  | holds
  | fails
  | unknown
  deriving DecidableEq, Repr

/-- What is known about one condition, and since when. -/
structure Condition where
  type : String
  status : ConditionStatus
  lastUpdate : Option Instant
  lastTransition : Option Instant
  message : String
  deriving DecidableEq, Repr

/-- A condition that nothing is known about. -/
def Condition.unset (type : String) : Condition := ⟨type, .unknown, none, none, ""⟩

/-- What an administrator asks for. -/
structure ConfigSpec where
  managementState : ManagementState := .managed
  installType : InstallType := .centos
  samplesRegistry : Option String := none
  deriving DecidableEq, Repr

/-- What was found. -/
structure ConfigStatus where
  conditions : List Condition := []
  version : Option String := none
  deriving DecidableEq, Repr

/-- The samples configuration. -/
structure Config where
  metadata : ObjectMeta
  spec : ConfigSpec
  status : Option ConfigStatus := none

namespace Config

/-- A configuration of a name and nothing found yet. -/
def new (name : String) (spec : ConfigSpec) : Config := { metadata := { name := some name }, spec }

/-- The name that a configuration goes by. -/
def displayName (config : Config) : String := config.metadata.displayName

/-- The version at which a configuration was read. -/
def resourceVersion (config : Config) : Option String := config.metadata.resourceVersion

/-- The registry that hands out rhel content only to those with the credential. -/
def credentialRegistry : String := "registry.redhat.io"

/-- Whether samples are pulled from the registry that asks for the credential: rhel content, unless
another registry is named. -/
def needsCredential (config : Config) : Bool :=
  match config.spec.installType with
  | .centos => false
  | .rhel =>
    match config.spec.samplesRegistry with
    | none => true
    | some registry => registry = "" || registry = credentialRegistry

end Config

end PullSecretSync
