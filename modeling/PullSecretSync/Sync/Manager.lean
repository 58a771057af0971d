import PullSecretSync.Sync.Reconcile

/-!
# Delivering events

Events are handled one at a time in the order in which they arrive. An event that has to wait, or
whose handling failed, is delivered again after a delay; what it says may be outdated by then, so
the secret of an event that is no deletion is read again first. A deletion is kept as it is.
-/

namespace PullSecretSync

/-- An event on its way to be handled. -/
inductive Delivery where
  /-- Straight from the watch. -/
  | watched (event : SecretEvent)
  /-- Put off before. -/
  | redelivered (event : SecretEvent)

/-- The event of a delivery. -/
def Delivery.event : Delivery → SecretEvent
  | .watched event => event
  | .redelivered event => event

/-- What becomes of a delivered event. -/
inductive Fate where
  | completed (outcome : Outcome)
  /-- It is to be delivered again. -/
  | deferred (event : SecretEvent)
  /-- There is nothing left that it could be about. -/
  | dropped

namespace Sync

/-- How logs show an outcome. -/
def outcomeText : Outcome → String
  | .ignored => "Ignored"
  | .unchanged => "Unchanged"
  | .statusFlushed => "StatusFlushed"
  | .retry .upsertInProgress => "Retry(UpsertInProgress)"
  | .retry (.deletionUnconfirmed attempt) =>
    "Retry(MirrorDeletionUnconfirmed \x7b attempt: " ++ toString attempt.toNat ++ " \x7d)"

/-- Handle an event on the configuration as it is now. Without a configuration the event is
dropped. -/
def deliver (settings : Settings) (now : Instant) (inFlight : UInt64) (retries : UInt32)
    (event : SecretEvent) : Sync (Fate × UInt32) := do
  match ← readConfig settings.configName with
  | .ok none =>
    note .debug ("Samples config " ++ settings.configName ++
      " does not exist yet, dropping secret event")
    return (.dropped, retries)
  | .error error =>
    note .warning ("Failed to get samples config " ++ settings.configName ++ ": " ++
      (SyncError.api error).message)
    return (.deferred event, retries)
  | .ok (some config) =>
    let handled ← handle settings now inFlight config retries event
    match handled.result with
    | .ok (.retry reason) =>
      note .debug reason.message
      return (.deferred event, handled.retries)
    | .ok outcome =>
      note .debug ("Processed secret event: " ++ outcomeText outcome)
      return (.completed outcome, handled.retries)
    | .error error =>
      note .warning ("Failed to process secret event: " ++ error.message)
      return (.deferred event, handled.retries)

/-- Attend to a delivery. -/
def attend (settings : Settings) (now : Instant) (inFlight : UInt64) (retries : UInt32) :
    Delivery → Sync (Fate × UInt32)
  | .watched event => deliver settings now inFlight retries event
  | .redelivered event => do
    if event.deleted then deliver settings now inFlight retries event
    else
      let slot : Slot := ⟨event.secret.displaySpace, event.secret.displayName⟩
      match ← readSecret slot with
      | .ok (some secret) => deliver settings now inFlight retries (.applied secret)
      | .ok none =>
        note .debug ("Secret " ++ slot.path ++ " no longer exists, dropping deferred event")
        return (.dropped, retries)
      | .error error =>
        note .warning ("Failed to refresh secret " ++ slot.path ++ ": " ++ error.message)
        return (.deferred event, retries)

end Sync

/-- The deliveries that wait: those to attend to next, and events put off with the milliseconds at
which they fall due, in the order in which they do. -/
structure Manager where
  queue : List Delivery := []
  delayed : List (Nat × SecretEvent) := []
  /-- The count of deferred deletions. -/
  retries : UInt32 := 0

namespace Manager

/-- Take in an event from the watch. -/
def watch (manager : Manager) (event : SecretEvent) : Manager :=
  { manager with queue := manager.queue ++ [.watched event] }

/-- Put an event among others that are put off, behind those that fall due at the same time. -/
def insertDelayed (due : Nat) (event : SecretEvent) :
    List (Nat × SecretEvent) → List (Nat × SecretEvent)
  | [] => [(due, event)]
  | (other, earlier) :: rest =>
    if due < other then (due, event) :: (other, earlier) :: rest
    else (other, earlier) :: insertDelayed due event rest

/-- Put an event off. -/
def putOff (manager : Manager) (due : Nat) (event : SecretEvent) : Manager :=
  { manager with delayed := insertDelayed due event manager.delayed }

/-- Queue the events that have fallen due. -/
def release (manager : Manager) (time : Nat) : Manager :=
  let due := manager.delayed.takeWhile (·.1 ≤ time)
  { manager with
    queue := manager.queue ++ due.map fun (_, event) => .redelivered event
    delayed := manager.delayed.dropWhile (·.1 ≤ time) }

/-- The time at which the next event falls due. -/
def nextDue? (manager : Manager) : Option Nat := manager.delayed.head?.map (·.1)

/-- The milliseconds until an event that is put off is delivered again. -/
def delay (settings : Settings) : Nat := 1000 * settings.retryDelay.toNat

/-- The entry that is made when the manager starts. -/
def started : LogEntry :=
  ⟨.info, "CredentialSyncManager started, listening for secret events..."⟩

/-- The entry that is made for an event when there is no manager to take it. -/
def unreachable : LogEntry :=
  ⟨.error, "Failed to send event to CredentialSyncManager: channel closed"⟩

/-- Attend to the first delivery of the queue, if there is one, at a time in milliseconds. -/
def step (manager : Manager) (settings : Settings) (now : Instant) (time : Nat)
    (inFlight : UInt64) : Sync Manager := do
  match manager.queue with
  | [] => return manager
  | delivery :: queue =>
    let (fate, retries) ← Sync.attend settings now inFlight manager.retries delivery
    let manager := { manager with queue, retries }
    match fate with
    | .deferred event => return manager.putOff (time + delay settings) event
    | _ => return manager

end Manager

end PullSecretSync
