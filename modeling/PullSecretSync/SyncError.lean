import PullSecretSync.Api.Error
import PullSecretSync.Slot

/-!
# Errors of the synchronisation
-/

namespace PullSecretSync

/-- Why a step of the synchronisation failed. -/
inductive SyncError where
  /-- The API failed in a way that has no meaning of its own here. -/
  | api (error : ApiError)
  | notFound (slot : Slot)
  | alreadyExists (slot : Slot)
  /-- A secret without the version annotation was written to a namespace. -/
  | unstamped (space : String)
  /-- Content is wanted from the registry that asks for the credential, which is missing. -/
  | missingCredential
  /-- The configuration of a name was changed since it was read. -/
  | conflict (name : String)
  /-- A status has no document. -/
  | unserializable (cause : Placed)
  deriving DecidableEq, Repr

namespace SyncError

/-- The wording of an error. -/
def message : SyncError → String
  | .api error => "Kubernetes API error: " ++ error.message
  | .notFound slot => "secret " ++ slot.path ++ " not found"
  | .alreadyExists slot => "secret " ++ slot.path ++ " already exists"
  | .unstamped space =>
    "the samples credential was created/updated in the " ++ space ++
      " namespace without the version annotation"
  | .missingCredential =>
    "Cannot create rhel imagestreams to registry.redhat.io without the credentials being available"
  | .conflict name => "samples config " ++ name ++ " was modified concurrently"
  | .unserializable cause => "Failed to serialize status: " ++ cause.text

/-- An error with the names of its kinds and parts. -/
def listing : SyncError → String
  | .api error => "KubeError(" ++ error.listing ++ ")"
  | .notFound slot => "NotFound " ++ slotListing slot
  | .alreadyExists slot => "AlreadyExists " ++ slotListing slot
  | .unstamped space =>
    "MissingVersionAnnotation \x7b namespace: " ++ Text.quoted space ++ " \x7d"
  | .missingCredential => "MissingCredential"
  | .conflict name => "Conflict \x7b name: " ++ Text.quoted name ++ " \x7d"
  | .unserializable cause => "SerializationError(" ++ cause.listing ++ ")"
where
  slotListing (slot : Slot) : String :=
    "\x7b namespace: " ++ Text.quoted slot.space ++ ", name: " ++ Text.quoted slot.name ++ " \x7d"

/-- Whether a secret was not there. -/
def isNotFound : SyncError → Bool
  | .notFound _ => true
  | _ => false

/-- Whether a secret was there already. -/
def isAlreadyExists : SyncError → Bool
  | .alreadyExists _ => true
  | _ => false

/-- Whether a configuration was changed by someone else. -/
def isConflict : SyncError → Bool
  | .conflict _ => true
  | _ => false

end SyncError

end PullSecretSync
