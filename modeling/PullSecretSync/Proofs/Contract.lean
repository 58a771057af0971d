import PullSecretSync.Proofs.Copying
import PullSecretSync.Sync.SecretMap

/-!
# The contract of a copy

A copy is told in full by what is written and by three answers, each of which was given once or not
at all: to the lookup of the pull secret, to the creation of the replica and to its update. The main
result reads the calls, the payload and the result of a copy off these answers, whatever they are.
What makes a payload the replica of a secret is said on its own, so that the two ways of recognizing
a replica, by its slot and by its stamp, are seen to find every payload.
-/

namespace PullSecretSync

namespace Secret

/-- Two secrets agree in all that a copy takes over. -/
structure SameContent (secret other : Secret) : Prop where
  labels : secret.metadata.labels = other.metadata.labels
  data : secret.data = other.data
  stringData : secret.stringData = other.stringData
  type : secret.type = other.type
  immutable : secret.immutable = other.immutable

/-- A secret is what has to be written for a copy of another one. -/
structure IsPayload (payload secret : Secret) (version : String) : Prop where
  content : payload.SameContent secret
  /-- Only the labels come from the metadata of the secret that is copied. -/
  metadata : payload.metadata = {
    name := some Slot.replica.name
    space := some Slot.replica.space
    labels := secret.metadata.labels
    annotations := some [(versionKey, version)] }
  role : payload.role? = some .replica
  stamped : payload.stamped = true
  /-- A copy of the copy is the copy. -/
  again : payload.replica version = payload
  /-- Nothing else of the secret matters. -/
  determined : ∀ other : Secret, other.SameContent secret → other.replica version = payload

variable {secret other : Secret} {version : String}

/-- Secrets of the same content have the same replica. -/
theorem SameContent.replica_eq (same : other.SameContent secret) :
    other.replica version = secret.replica version := by
  unfold replica
  rw [same.labels, same.data, same.stringData, same.type, same.immutable]

theorem sameContent_replica (secret : Secret) (version : String) :
    (secret.replica version).SameContent secret := ⟨rfl, rfl, rfl, rfl, rfl⟩

/-- The replica is the payload of a copy. -/
theorem isPayload_replica (secret : Secret) (version : String) :
    (secret.replica version).IsPayload secret version where
  content := sameContent_replica secret version
  metadata := rfl
  role := role?_replica secret version
  stamped := stamped_replica secret version
  again := (sameContent_replica secret version).replica_eq
  determined _ same := same.replica_eq

end Secret

/-- The slot of the replica holds what has to be written for a copy of a secret. -/
def SecretMap.HoldsReplica (secrets : SecretMap) (secret : Secret) (version : String) : Prop :=
  ∃ copy, secrets.get? .replica = some copy ∧ copy.IsPayload secret version

/-- The replica is the only payload of a copy. -/
theorem SecretMap.holdsReplica_iff {secrets : SecretMap} {secret : Secret} {version : String} :
    secrets.HoldsReplica secret version ↔
      secrets.get? .replica = some (secret.replica version) := by
  constructor
  · rintro ⟨copy, held, payload⟩
    rw [held, payload.determined secret ⟨rfl, rfl, rfl, rfl, rfl⟩]
  · intro held
    exact ⟨_, held, secret.isPayload_replica version⟩

namespace Sync

/-- The error that a call to the store was answered with. -/
def Effect.failure? : Effect → Option SyncError
  | ⟨.store (.get _), .error error⟩ => some error
  | ⟨.store (.create _ _), .error error⟩ => some error
  | ⟨.store (.update _ _), .error error⟩ => some error
  | ⟨.store (.delete _), .error error⟩ => some error
  | _ => none

/-- What a copy writes, and the answers to its calls as far as it made them. -/
structure Transcript where
  lookup : Option (Except SyncError (Option Secret))
  payload : Secret
  creation : Option (Except SyncError Secret)
  update : Option (Except SyncError Secret)

namespace Transcript

/-- The calls of a copy with their answers, in order. -/
def effects (transcript : Transcript) : List Effect :=
  (transcript.lookup.map fun answer => .store (.get .source) answer).toList ++
    (transcript.creation.map fun answer =>
      .store (.create Slot.replica.space transcript.payload) answer).toList ++
    (transcript.update.map fun answer =>
      .store (.update Slot.replica.space transcript.payload) answer).toList

/-- The secret to copy: the one that was supplied, or else the one that was looked up. -/
def origin (transcript : Transcript) : (supplied : Option Secret) → Option Secret
  | some secret => some secret
  | none =>
    match transcript.lookup with
    | some (.ok found) => found
    | _ => none

/-- The creation was answered by saying that the replica is there already. -/
def Exists (transcript : Transcript) : Prop :=
  ∃ error, transcript.creation = some (.error error) ∧ error.isAlreadyExists = true

/-- A copy keeps its contract: this is how its calls and its result follow from the answers. -/
structure Keeps (transcript : Transcript) (version : String) (supplied : Option Secret)
    (effects : List Effect) (result : Except SyncError Copied) : Prop where
  calls : effects = transcript.effects
  /-- The pull secret is looked up exactly if it was not supplied. -/
  looksUp_iff : transcript.lookup.isSome ↔ supplied = none
  /-- There is something to create exactly if there is something to copy. -/
  creates_iff : transcript.creation.isSome ↔ (transcript.origin supplied).isSome
  updates_iff : transcript.update.isSome ↔ transcript.Exists
  payload : ∀ secret, transcript.origin supplied = some secret →
    transcript.payload.IsPayload secret version
  created_iff : result = .ok .created ↔ ∃ made, transcript.creation = some (.ok made)
  updated_iff : result = .ok .updated ↔
    transcript.Exists ∧ ∃ made, transcript.update = some (.ok made)
  nothing_iff : result = .ok .nothing ↔ transcript.lookup = some (.ok none)
  /-- An error is that of the last call. -/
  failed_iff : ∀ error, result = .error error ↔
    effects.getLast?.bind Effect.failure? = some error

end Transcript

variable {version : String} {secret : Secret} {supplied : Option Secret} {effects : List Effect}
  {result : Except SyncError Copied}

/-- The replica is created, and updated exactly if it is there already; the last of the two answers
decides. -/
theorem Writing.exists_answers (writing : Writing version secret effects result) :
    ∃ creation update,
      effects = .create version secret creation ::
        (update.map fun answer => .update version secret answer).toList ∧
      (update.isSome ↔ ∃ error, creation = .error error ∧ error.isAlreadyExists = true) ∧
      (result = .ok .created ↔ ∃ made, creation = .ok made) ∧
      (result = .ok .updated ↔ ∃ made, update = some (.ok made)) ∧ result ≠ .ok .nothing ∧
      ∀ error, result = .error error ↔ effects.getLast?.bind Effect.failure? = some error := by
  cases writing with
  | created made =>
    refine ⟨.ok made, none, rfl, ?_⟩
    simp [Effect.failure?]
  | refused error other =>
    refine ⟨.error error, none, rfl, ?_⟩
    simp [Effect.failure?, other]
  | updated found present made =>
    refine ⟨.error found, some (.ok made), rfl, ?_⟩
    simp [Effect.failure?, present]
  | missed found present error =>
    refine ⟨.error found, some (.error error), rfl, ?_⟩
    simp [Effect.failure?, present]

/-- Writing the replica keeps the contract behind a lookup that gave the secret, and without a
lookup where the secret was supplied. -/
theorem Writing.exists_transcript {lookup : Option (Except SyncError (Option Secret))}
    (writing : Writing version secret effects result)
    (looksUp : lookup.isSome ↔ supplied = none) (told : lookup ≠ some (.ok none))
    (origin : ∀ creation update,
      Transcript.origin ⟨lookup, secret.replica version, creation, update⟩ supplied =
        some secret) :
    ∃ transcript : Transcript, transcript.Keeps version supplied
      ((lookup.map fun answer => Effect.store (.get .source) answer).toList ++ effects) result := by
  obtain ⟨creation, update, rfl, updates, created, updated, something, failed⟩ :=
    writing.exists_answers
  refine ⟨⟨lookup, secret.replica version, some creation, update⟩, ?_⟩
  exact {
    calls := by simp [Transcript.effects]
    looksUp_iff := looksUp
    creates_iff := by simp [origin]
    updates_iff := by simpa [Transcript.Exists] using updates
    payload := by
      intro other copied
      obtain rfl := Option.some.inj ((origin _ _).symm.trans copied)
      exact secret.isPayload_replica version
    created_iff := by simpa using created
    updated_iff := by
      rw [updated, iff_and_self]
      rintro ⟨made, answered⟩
      simpa [Transcript.Exists] using updates.mp (by simp [answered])
    nothing_iff := iff_of_false something told
    failed_iff := by
      intro error
      rw [failed error, List.getLast?_append, List.getLast?_cons, Option.some_or] }

/-- A lookup that does not give the secret ends a copy, which keeps the contract if its result
passes on what was told. -/
theorem Transcript.keeps_of_lookup {answer : Except SyncError (Option Secret)}
    (untold : ∀ secret, answer ≠ .ok (some secret))
    (nothing : result = .ok .nothing ↔ answer = .ok none)
    (failed : ∀ error, result = .error error ↔ answer = .error error)
    (unwritten : result ≠ .ok .created ∧ result ≠ .ok .updated) :
    Keeps ⟨some answer, {}, none, none⟩ version none [.store (.get .source) answer] result := by
  have origin : Transcript.origin ⟨some answer, {}, none, none⟩ none = none := by
    match answer with
    | .ok (some secret) => exact absurd rfl (untold secret)
    | .ok none => rfl
    | .error error => rfl
  exact {
    calls := rfl
    looksUp_iff := by simp
    creates_iff := by simp [origin]
    updates_iff := by simp [Transcript.Exists]
    payload := by simp [origin]
    created_iff := iff_of_false unwritten.1 (by simp)
    updated_iff := iff_of_false unwritten.2 (by simp [Transcript.Exists])
    nothing_iff := nothing.trans (by simp)
    failed_iff := by
      intro error
      rw [failed error]
      cases answer <;> simp [Effect.failure?] }

/-- **The contract of a copy.** Whatever the store answers, a copy looks the pull secret up if it
was not supplied, creates the replica once if there is a secret to copy, and updates it with the
same payload if it is there already; its result tells how the last of these calls went. -/
theorem exists_keeps (course : Leads (copyCredential version supplied) effects result) :
    ∃ transcript : Transcript, transcript.Keeps version supplied effects result := by
  have copying := leads_copyCredential_iff.mp course
  cases copying with
  | @given secret _ _ writing =>
    have looksUp : (none : Option (Except SyncError (Option Secret))).isSome ↔
        some secret = none := by simp
    exact writing.exists_transcript looksUp (by simp) fun _ _ => rfl
  | @fetched secret _ _ writing =>
    have looksUp : (some (Except.ok (ε := SyncError) (some secret))).isSome ↔
        (none : Option Secret) = none := by simp
    exact writing.exists_transcript looksUp (by simp) fun _ _ => rfl
  | untold =>
    exact ⟨_, Transcript.keeps_of_lookup (by simp) (by simp) (by simp) (by simp)⟩
  | unread error =>
    exact ⟨_, Transcript.keeps_of_lookup (by simp) (by simp) (by simp) (by simp)⟩

/-- The pull secret is looked up, the replica is there already, and its update is refused: the
payload, which the store was given twice, does not carry the identity of the pull secret, and the
refusal is passed on. -/
theorem exists_keeps_refused_update :
    let pull : Secret := {
      metadata := { name := some "coreos-pull-secret", space := some "kube-system",
                    uid := some "1", labels := some [("tier", "node")] }
      type := some "kubernetes.io/dockerconfigjson" }
    let found := SyncError.alreadyExists .replica
    let refused := SyncError.conflict "samples-registry-credentials"
    let effects : List Effect := [.store (.get .source) (.ok (some pull)),
      .create "4.1.0" pull (.error found), .update "4.1.0" pull (.error refused)]
    Leads (copyCredential "4.1.0" none) effects (.error refused) ∧
      (∃ transcript : Transcript, transcript.Keeps "4.1.0" none effects (.error refused)) ∧
      (pull.replica "4.1.0").metadata.uid = none := by
  intro pull found refused effects
  have writing : Writing "4.1.0" pull [_, _] (.error refused) := .missed found rfl refused
  have course : Leads (copyCredential "4.1.0" none) effects (.error refused) :=
    leads_copyCredential_iff.mpr (.fetched writing)
  exact ⟨course, exists_keeps course, rfl⟩

end Sync

end PullSecretSync
