import PullSecretSync.Config.Condition
import PullSecretSync.Sync.Call

/-!
# Waiting for the credential

Content that needs the credential is held back until the credential exists. That it is missing is
put on record once; until something clears the record, waiting asks for no further write.
-/

namespace PullSecretSync

/-- Whether content is held back, and whether the status has to be written. -/
structure Gate where
  block : Bool := false
  flush : Bool := false
  deriving DecidableEq, Repr

/-- Decide whether content has to wait for the credential, and put its lack on record. -/
def Config.gate (config : Config) (now : Instant) : Gate × Config :=
  let credential := config.condition credentialType
  if !config.needsCredential || credential.status = .holds then ({}, config)
  else if credential.message ≠ "" then ({ block := true }, config)
  else
    ({ block := true, flush := true },
      config.reportError now credentialType .fails SyncError.missingCredential.message)

namespace Sync

/-- Pass the gate; a warning says when the lack of the credential is put on record. -/
def passGate (config : Config) (now : Instant) : Sync (Gate × Config) := do
  let (gate, config) := config.gate now
  if gate.flush then note .warning SyncError.missingCredential.message
  return (gate, config)

/-- Reconcile a configuration that was read from the cluster: hold it back if it has to wait, and
write the status if the gate asks for it. -/
def reconcile (config : Config) (now : Instant) : Sync (Except SyncError Unit) := do
  let name := config.displayName
  note .debug ("Reconciling samples config: " ++ name)
  let (gate, config) ← passGate config now
  if gate.flush then
    note .info ("CRDUPDATE cred does not exist for samples config " ++ name)
    match ← writeStatus config with
    | .ok () => conclude gate name
    | .error error => return .error error
  else conclude gate name
where
  conclude (gate : Gate) (name : String) : Sync (Except SyncError Unit) := do
    if gate.block then
      note .info ("Samples config " ++ name ++ " is waiting for the registry credential")
    return .ok ()

end Sync

end PullSecretSync
