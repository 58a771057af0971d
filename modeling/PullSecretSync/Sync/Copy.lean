import PullSecretSync.Sync.Call

/-!
# Copying the credential

The replica is a copy of the pull secret under a name of its own, stamped with the version. It is
created where there is none and overwritten where there is one.
-/

namespace PullSecretSync

/-- The replica of a secret: what it holds, its labels and its kind stay, and the version stamp is
its only annotation. -/
def Secret.replica (secret : Secret) (version : String) : Secret where
  metadata := {
    name := some Slot.replica.name
    space := some Slot.replica.space
    labels := secret.metadata.labels
    annotations := some [(versionKey, version)] }
  data := secret.data
  immutable := secret.immutable
  stringData := secret.stringData
  type := secret.type

/-- How a copy came about. -/
inductive Copied where
  | created
  | updated
  /-- The store gave neither a secret nor an error. -/
  | nothing
  deriving DecidableEq, Repr

namespace Sync

/-- Write the replica of a secret. -/
def writeReplica (version : String) (secret : Secret) : Sync (Except SyncError Copied) := do
  note .info ("Copying secret " ++ Slot.source.name ++ " from the " ++ Slot.source.space ++
    " namespace into the operator's namespace")
  match ← store (.create Slot.replica.space (secret.replica version)) with
  | .ok _ => return .ok .created
  | .error error =>
    if error.isAlreadyExists then
      note .debug "Mirror secret already exists, updating it"
      match ← store (.update Slot.replica.space (secret.replica version)) with
      | .ok _ => return .ok .updated
      | .error error => return .error error
    else return .error error

/-- Copy the pull secret to the replica's slot. Unless the pull secret is given, it is taken from
its slot. -/
def copyCredential (version : String) : Option Secret → Sync (Except SyncError Copied)
  | some secret => writeReplica version secret
  | none => do
    match ← store (.get .source) with
    | .ok (some secret) => writeReplica version secret
    | .ok none =>
      note .debug "No pull secret to copy yet"
      return .ok .nothing
    | .error error => return .error error

end Sync

end PullSecretSync
