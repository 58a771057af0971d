import PullSecretSync.Sync.Call

/-!
# Maps of secrets

The plainest store of secrets: a map from slots to secrets, listed in the order of the slots.
-/

namespace PullSecretSync

/-- Secrets by slot, in increasing order of the slots. -/
abbrev SecretMap := List (Slot × Secret)

namespace SecretMap

/-- The secret in a slot. -/
def get? (map : SecretMap) (slot : Slot) : Option Secret :=
  (map.find? (·.1 = slot)).map (·.2)

/-- Put a secret into a slot. -/
def put (map : SecretMap) (slot : Slot) (secret : Secret) : SecretMap :=
  match map with
  | [] => [(slot, secret)]
  | (other, old) :: rest =>
    if slot.before other then (slot, secret) :: (other, old) :: rest
    else if slot = other then (slot, secret) :: rest
    else (other, old) :: put rest slot secret

/-- Empty a slot. -/
def erase (map : SecretMap) (slot : Slot) : SecretMap := map.filter (·.1 ≠ slot)

/-- The slot that a secret is written to in a namespace. -/
def slotIn (space : String) (secret : Secret) : Slot := ⟨space, secret.displayName⟩

/-- Put a secret into the slot that its metadata name. -/
def add (map : SecretMap) (secret : Secret) : SecretMap :=
  map.put ⟨secret.displaySpace, secret.metadata.name.getD ""⟩ secret

/-- The map of some secrets, each in the slot that its metadata name. -/
def ofSecrets (secrets : List Secret) : SecretMap := secrets.foldl add []

/-- How the map answers. -/
def answer (map : SecretMap) : (call : StoreCall) → call.Answer × SecretMap
  | .get slot =>
    match map.get? slot with
    | some secret => (.ok (some secret), map)
    | none => (.error (.notFound slot), map)
  | .create space secret =>
    let slot := slotIn space secret
    match map.get? slot with
    | some _ => (.error (.alreadyExists slot), map)
    | none => (.ok secret, map.put slot secret)
  | .update space secret =>
    let slot := slotIn space secret
    match map.get? slot with
    | some _ => (.ok secret, map.put slot secret)
    | none => (.error (.notFound slot), map)
  | .delete slot =>
    match map.get? slot with
    | some _ => (.ok (), map.erase slot)
    | none => (.error (.notFound slot), map)

end SecretMap

end PullSecretSync
