import PullSecretSync.Settings
import PullSecretSync.Sync.Copy
import PullSecretSync.Sync.Transition

/-!
# Handling an event

An event is decided upon and carried out: the replica is written or deleted, the condition of the
credential is set, and the status is written when the condition changed or an error was reported.
An event that has to wait is asked for again.
-/

namespace PullSecretSync

/-- Why an event has to wait. -/
inductive RetryReason where
  | upsertInProgress
  /-- It is the so-many-th time that the replica's deletion was put off. -/
  | deletionUnconfirmed (attempt : UInt32)
  deriving DecidableEq, Repr

/-- The wording of a reason. -/
def RetryReason.message : RetryReason → String
  | .upsertInProgress => "retry secret event because in the middle of a sample upsert cycle"
  | .deletionUnconfirmed attempt =>
    "retry " ++ toString attempt.toNat ++ " on credential deletion in the " ++
      Slot.replica.space ++ " namespace to make sure the operator deleted it"

/-- What came of an event. -/
inductive Outcome where
  | ignored
  /-- The event was handled and the condition did not change. -/
  | unchanged
  /-- The status was written. -/
  | statusFlushed
  | retry (reason : RetryReason)
  deriving DecidableEq, Repr

/-- Whether the event is to be delivered again. -/
def Outcome.isRetry : Outcome → Bool
  | .retry _ => true
  | _ => false

/-- What is left of handling an event: its result, the configuration as it is held now, and the
number of deferred deletions. -/
structure Handled where
  result : Except SyncError Outcome
  config : Config
  retries : UInt32

namespace Sync

/-- The entry on the state that an event meets. -/
def noteState (facts : Facts) : Sync Unit :=
  let deletion := "; deletion event: " ++ toString facts.deleted
  if facts.transition = .busy then
    note .debug "Deferring secret event while a sample upsert cycle is in flight"
  else
    match facts.state with
    | .unmanaged =>
      note .debug "Ignoring secret event because samples resource is in unmanaged state"
    | .removed =>
      note .info ("processing secret watch event while in Removed state" ++ deletion)
    | .managed =>
      note .info ("processing secret watch event while in Managed state" ++ deletion)
    | .unrecognized state =>
      note .info ("processing secret watch event like we are in Managed state, even though it is " ++
        "set to " ++ state ++ deletion)

/-- Restore a deleted replica from the pull secret. Without a pull secret the condition fails until
it comes back. -/
def restoreReplica (version : String) (now : Instant) (config : Config) :
    Sync (Except SyncError Config) := do
  match ← copyCredential version none with
  | .ok .nothing => return .ok config
  | .ok _ => return .ok (config.settle now Config.credentialType .holds)
  | .error error =>
    if error.isNotFound then return .ok (config.settle now Config.credentialType .fails)
    else return .error error

/-- Delete the replica of a deleted pull secret. -/
def deleteReplica (now : Instant) (config : Config) : Sync (Except SyncError Config) := do
  match ← store (.delete .replica) with
  | .ok () => conclude
  | .error error => if error.isNotFound then conclude else return .error error
where
  conclude : Sync (Except SyncError Config) := do
    note .info ("registry dockerconfig secret " ++ Slot.source.path ++
      " was deleted so deleted secret " ++ Slot.replica.name ++ " in the " ++
      Slot.replica.space ++ " namespace")
    return .ok (config.settle now Config.credentialType .fails)

/-- Bring the replica in line with an event and set the condition accordingly. Events of other
secrets change nothing; an error leaves the configuration as it is. -/
def manage (version : String) (now : Instant) (config : Config) (event : SecretEvent) :
    Sync (Except SyncError Config) :=
  match event.secret.role?, event.deleted with
  | none, _ => return .ok config
  | some .replica, false => return .ok config
  | some .replica, true => restoreReplica version now config
  | some .source, true => deleteReplica now config
  | some .source, false => do
    match ← copyCredential version (some event.secret) with
    | .ok _ => return .ok (config.settle now Config.credentialType .holds)
    | .error error => return .error error

/-- Write the status and conclude. -/
def flush (config : Config) : Sync (Except SyncError Outcome) := do
  match ← writeStatus config with
  | .ok () => return .ok .statusFlushed
  | .error error => return .error error

/-- Manage the credential, and write the status if the condition's status changed or an error was
reported. -/
def manageAndFlush (version : String) (now : Instant) (config : Config) (event : SecretEvent) :
    Sync (Except SyncError Outcome × Config) := do
  match ← manage version now config event with
  | .error error =>
    note .warning ("Failed to manage registry credential: " ++ error.message)
    let config := config.reportError now Config.credentialType .unknown error.message
    note .info "CRDUPDATE event secret update error"
    return (← flush config, config)
  | .ok managed =>
    if (managed.condition Config.credentialType).status =
        (config.condition Config.credentialType).status then
      return (.ok .unchanged, managed)
    else
      note .info "CRDUPDATE event secret update"
      return (← flush managed, managed)

/-- Handle an event. The count of deferred deletions starts again with every event that is neither
deferred for an upsert nor a deletion deferred once more. -/
def handle (settings : Settings) (now : Instant) (inFlight : UInt64) (config : Config)
    (retries : UInt32) (event : SecretEvent) : Sync Handled := do
  let facts := event.facts config inFlight retries settings.retryLimit
  noteState facts
  match facts.transition with
  | .busy => return ⟨.ok (.retry .upsertInProgress), config, retries⟩
  | .ignoreUnmanaged => return ⟨.ok .ignored, config, 0⟩
  | .ignoreIrrelevant => return ⟨.ok .ignored, config, 0⟩
  | .acknowledgeOwnWrite =>
    note .info "creation/update of credential in openshift namespace recognized"
    if config.conditionHolds Config.credentialType then return ⟨.ok .unchanged, config, 0⟩
    else
      let config := config.settle now Config.credentialType .holds
      note .info
        "CRDUPDATE switching import cred to true following openshift namespace event"
      return ⟨← flush config, config, 0⟩
  | .rejectUnstamped =>
    let error := SyncError.unstamped Slot.replica.space
    note .warning error.message
    let config := config.reportError now Config.credentialType .unknown error.message
    return ⟨← flush config, config, 0⟩
  | .retryDeletion =>
    let reason := RetryReason.deletionUnconfirmed (retries + 1)
    note .debug reason.message
    return ⟨.ok (.retry reason), config, retries + 1⟩
  | .acceptDeletion =>
    note .info "deletion of credential in openshift namespace for removed state recognized"
    let config := config.settle now Config.credentialType .fails
    note .info "CRDUPDATE secret deletion recognized"
    return ⟨← flush config, config, 0⟩
  | .ignoreWhileRemoved =>
    note .debug "Ignoring stray secret event while in removed state"
    return ⟨.ok .ignored, config, 0⟩
  | .manageCredential =>
    let (result, config) ← manageAndFlush settings.version now config event
    return ⟨result, config, 0⟩

end Sync

end PullSecretSync
