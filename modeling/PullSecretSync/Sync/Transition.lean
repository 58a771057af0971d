import PullSecretSync.Config.Condition
import PullSecretSync.Slot

/-!
# Deciding on an event

An event about a secret is first reduced to a few facts; they alone decide what is done about it.
-/

namespace PullSecretSync

/-- A secret was changed or deleted. -/
structure SecretEvent where
  secret : Secret
  deleted : Bool

namespace SecretEvent

/-- A secret was created or changed. -/
def applied (secret : Secret) : SecretEvent := ⟨secret, false⟩

/-- A secret was deleted; this is what it was last. -/
def removed (secret : Secret) : SecretEvent := ⟨secret, true⟩

end SecretEvent

/-- All that the decision depends on. -/
structure Facts where
  /-- The number of sample upserts that are running. -/
  inFlight : UInt64
  state : ManagementState
  role : Option Role
  deleted : Bool
  stamped : Bool
  /-- Whether the credential is reported to exist. -/
  credentialExists : Bool
  retries : UInt32
  retryLimit : UInt32
  deriving DecidableEq, Repr

/-- What is done about an event. -/
inductive Transition where
  /-- Wait for the upserts, which write the status too. -/
  | busy
  | ignoreUnmanaged
  | ignoreIrrelevant
  /-- The replica is as it was written here. -/
  | acknowledgeOwnWrite
  /-- Someone else wrote the replica. -/
  | rejectUnstamped
  /-- Wait whether the deletion of the replica was meant. -/
  | retryDeletion
  /-- The replica is to stay away. -/
  | acceptDeletion
  | ignoreWhileRemoved
  | manageCredential
  deriving DecidableEq, Repr

/-- The decision on an event. -/
def Facts.transition (facts : Facts) : Transition :=
  if 0 < facts.inFlight then .busy
  else if facts.state = .unmanaged then .ignoreUnmanaged
  else
    let removed := facts.state = .removed
    match facts.role with
    | none => .ignoreIrrelevant
    | some .source => if removed then .ignoreWhileRemoved else .manageCredential
    | some .replica =>
      if !facts.deleted then
        if facts.stamped then .acknowledgeOwnWrite else .rejectUnstamped
      else if facts.credentialExists ∧ facts.retries < facts.retryLimit then .retryDeletion
      else if removed then .acceptDeletion
      else .manageCredential

/-- The facts of an event. -/
def SecretEvent.facts (event : SecretEvent) (config : Config) (inFlight : UInt64)
    (retries retryLimit : UInt32) : Facts where
  inFlight
  state := config.spec.managementState
  role := event.secret.role?
  deleted := event.deleted
  stamped := event.secret.stamped
  credentialExists := config.conditionHolds Config.credentialType
  retries
  retryLimit

end PullSecretSync
