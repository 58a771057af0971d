import PullSecretSync.Api.Client
import PullSecretSync.Sync.Call

/-!
# Secrets in the cluster

The store of secrets, kept by the API. A refusal with code 404 means that a secret is not there;
one with code 409 means that it is there already only if it gives that reason. All else is an
error of the API.
-/

namespace PullSecretSync

/-- The path of the secrets of a namespace. -/
def secretsPath (space : String) : String := "/api/v1/namespaces/" ++ space ++ "/secrets"

/-- What an error means for a slot. -/
def SyncError.ofApi (slot : Slot) (error : ApiError) : SyncError :=
  match error with
  | .refused fault =>
    if fault.code = 404 then .notFound slot
    else if fault.code = 409 ∧ fault.reason = "AlreadyExists" then .alreadyExists slot
    else .api error
  | _ => .api error

namespace Http

/-- Conclude a call to the store, with an entry when it changed something. -/
def concludeStore {α : Type} (slot : Slot) (done : Option String)
    (result : Except ApiError α) : Http (Except SyncError α) := do
  match result with
  | .ok value =>
    match done with
    | some verb => note .debug (verb ++ " secret " ++ slot.path)
    | none => pure ()
    return .ok value
  | .error error => return .error (.ofApi slot error)

/-- Answer a call to the store. -/
def store : (call : StoreCall) → Http call.Answer
  | .get slot => do
    concludeStore slot none (some <$> (← get Secret.decoder (secretsPath slot.space) slot.name))
  | .create space secret => do
    concludeStore ⟨space, secret.displayName⟩ (some "Created")
      (← create Secret.decoder (secretsPath space) secret.encode)
  | .update space secret => do
    concludeStore ⟨space, secret.displayName⟩ (some "Updated")
      (← replace Secret.decoder (secretsPath space) secret.displayName secret.encode)
  | .delete slot => do
    concludeStore slot (some "Deleted")
      (← delete Secret.decoder (secretsPath slot.space) slot.name)

end Http

end PullSecretSync
