import PullSecretSync.Object.Secret

/-!
# Slots

A slot is the place of a secret in the cluster. Two slots matter: the source, which holds the pull
secret of the whole cluster, and the replica, which holds its copy for the samples.
-/

namespace PullSecretSync

/-- The place of a secret: its namespace and its name. -/
structure Slot where
  space : String
  name : String
  deriving DecidableEq, Repr

namespace Slot

/-- The slot of the cluster's pull secret. -/
def source : Slot := ⟨"kube-system", "coreos-pull-secret"⟩

/-- The slot of the copy for the samples. -/
def replica : Slot := ⟨"openshift", "samples-registry-credentials"⟩

/-- How messages name a slot. -/
def path (slot : Slot) : String := slot.space ++ "/" ++ slot.name

/-- The order of slots by namespace, then by name. -/
def before (slot other : Slot) : Bool :=
  slot.space < other.space || (slot.space = other.space && slot.name < other.name)

end Slot

/-- What a secret is to the samples. -/
inductive Role where
  | source
  | replica
  deriving DecidableEq, Repr

/-- The role of the secret in a slot; most have none. -/
def Slot.role? (slot : Slot) : Option Role :=
  if slot = .source then some .source
  else if slot = .replica then some .replica
  else none

namespace Secret

/-- The slot that a secret names by itself. -/
def slot? (secret : Secret) : Option Slot :=
  match secret.metadata.space, secret.metadata.name with
  | some space, some name => some ⟨space, name⟩
  | _, _ => none

/-- The role of a secret; one that does not name its slot has none. -/
def role? (secret : Secret) : Option Role := secret.slot?.bind Slot.role?

/-- The annotation on every secret that is written to the replica's slot. -/
def versionKey : String := "samples.operator.openshift.io/version"

/-- Whether a secret carries the version annotation. -/
def stamped (secret : Secret) : Bool :=
  match secret.metadata.annotations with
  | some annotations => (Json.lookup versionKey annotations).isSome
  | none => false

end Secret

end PullSecretSync
