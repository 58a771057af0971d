import PullSecretSync.Api.Status
import PullSecretSync.Api.Watch
import PullSecretSync.Settings
import PullSecretSync.Sync.Gate

/-!
# Controlling the configuration

The configuration is reconciled whenever it is listed or changed. When that fails it is reconciled
again after a while, soon if the copy was outdated; an event in the meantime takes the place of
the second attempt.
-/

namespace PullSecretSync

/-- The seconds until a failed reconciliation is repeated. -/
def SyncError.repeatAfter : SyncError → Nat
  | .conflict _ => Settings.defaultRetryDelay.toNat
  | _ => 60

/-- What the request for a reconciliation says about its object. -/
structure ObjectReference where
  name : String
  space : Option String
  resourceVersion : Option String
  uid : Option String
  deriving DecidableEq, Repr

namespace ObjectReference

/-- The reference to a configuration. -/
def ofConfig (config : Config) : ObjectReference where
  name := config.metadata.name.getD ""
  space := config.metadata.space
  resourceVersion := config.resourceVersion
  uid := config.metadata.uid

/-- How logs show a value that may be missing. -/
def optionText : Option String → String
  | none => "None"
  | some value => "Some(" ++ Text.quoted value ++ ")"

/-- A reference with the names of its parts, given how its kind is shown. -/
def listing (reference : ObjectReference) (kind : String) : String :=
  "ObjectRef \x7b dyntype: " ++ kind ++ ", name: " ++ Text.quoted reference.name ++
    ", namespace: " ++ optionText reference.space ++ ", extra: Extra \x7b resource_version: " ++
    optionText reference.resourceVersion ++ ", uid: " ++ optionText reference.uid ++ " \x7d \x7d"

/-- How logs show the kind of the configuration. -/
def kindText : String :=
  "ApiResource \x7b group: " ++ Text.quoted Config.group ++ ", version: " ++
    Text.quoted Config.version ++ ", api_version: " ++
    Text.quoted (Config.group ++ "/" ++ Config.version) ++ ", kind: " ++
    Text.quoted Config.kind ++ ", plural: " ++ Text.quoted Config.plural ++ " \x7d"

end ObjectReference

/-- The configuration as it was seen last, and the request that is made again, with the
milliseconds at which it falls due. -/
structure Controller where
  newest : Option Config := none
  /-- What the list that is under way has shown. -/
  listed : Option Config := none
  due : Option (Nat × ObjectReference) := none

namespace Controller

/-- The collection in which a configuration is watched. -/
def watched (name : String) : Watched := ⟨configsPath, name⟩

/-- Take in an event. The request for a reconciliation, if any, comes with it. -/
def observe (controller : Controller) : WatchEvent Config → Controller × Option ObjectReference
  | .listing => ({ controller with listed := none }, none)
  | .listed config =>
    ({ controller with newest := some config, listed := some config, due := none },
      some (.ofConfig config))
  | .complete => ({ controller with newest := controller.listed }, none)
  | .applied config =>
    ({ controller with newest := some config, due := none }, some (.ofConfig config))
  | .deleted _ => ({ controller with newest := none }, none)

/-- The request that is made when the time has come. -/
def wake (controller : Controller) (time : Nat) : Controller × Option ObjectReference :=
  match controller.due with
  | some (due, reference) =>
    if due ≤ time then ({ controller with due := none }, some reference) else (controller, none)
  | none => (controller, none)

/-- The time at which a request falls due. -/
def nextDue? (controller : Controller) : Option Nat := controller.due.map (·.1)

/-- Plan the next attempt after the result of a request. -/
def plan (controller : Controller) (time : Nat) (reference : ObjectReference) :
    Except SyncError Unit → Controller
  | .ok () => { controller with due := none }
  | .error error => { controller with due := some (time + 1000 * error.repeatAfter, reference) }

/-- The entry on what went wrong, given with the names of its kinds. -/
def trouble (listing : String) : LogEntry := ⟨.warning, "Reconciliation error: " ++ listing⟩

/-- The entry that is made when the watch fails. -/
def watchFailed (error : WatchError) : LogEntry := trouble ("QueueError(" ++ error.listing ++ ")")

/-- The entry on a request for an object that is gone. -/
def gone (reference : ObjectReference) : LogEntry :=
  trouble ("ObjectNotFound(" ++ reference.listing ObjectReference.kindText ++ ")")

/-- The entry on a reconciliation. -/
def reconciled (reference : ObjectReference) : LogEntry :=
  ⟨.debug, "Reconciled samples config: (" ++ reference.listing "()" ++
    ", Action \x7b requeue_after: None \x7d)"⟩

/-- The entries on a failed reconciliation. -/
def failed (reference : ObjectReference) (error : SyncError) : List LogEntry :=
  [if error.isConflict then ⟨.debug, error.message ++ ", requeueing"⟩
    else ⟨.error, "Reconciliation error: " ++ error.message⟩,
    trouble ("ReconcilerFailed(" ++ error.listing ++ ", " ++
      reference.listing ObjectReference.kindText ++ ")")]

/-- Meet a request: reconcile the configuration as it was seen last, and plan what follows. -/
def meet (controller : Controller) (time : Nat) (now : Instant) (reference : ObjectReference) :
    Sync Controller := do
  match controller.newest with
  | none =>
    Sync.note (gone reference).severity (gone reference).text
    return controller
  | some config =>
    let result ← Sync.reconcile config now
    let entries := match result with
      | .ok () => [reconciled reference]
      | .error error => failed reference error
    entries.forM fun entry => Sync.note entry.severity entry.text
    return controller.plan time reference result

end Controller

end PullSecretSync
