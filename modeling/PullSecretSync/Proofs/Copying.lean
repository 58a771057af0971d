import PullSecretSync.Proofs.Effect
import PullSecretSync.Sync.Copy

/-!
# Courses of a copy

The courses that writing the replica and copying the credential can take, whatever the store
answers, each with its calls in order and its result. Nothing is assumed about the answers: an
update may miss the replica that a creation found, and a creation may miss its namespace.
-/

namespace PullSecretSync

namespace Secret

@[simp] theorem slot?_replica (secret : Secret) (version : String) :
    (secret.replica version).slot? = some Slot.replica := rfl

/-- The replica of a secret has the role of a replica. -/
@[simp] theorem role?_replica (secret : Secret) (version : String) :
    (secret.replica version).role? = some .replica := by
  simp only [role?, slot?_replica, Option.bind_some]
  decide

/-- The replica of a secret is stamped. -/
@[simp] theorem stamped_replica (secret : Secret) (version : String) :
    (secret.replica version).stamped = true := by
  simp [stamped, replica, Json.lookup]

end Secret

/-- A call looks the pull secret up, or it writes or deletes its replica. -/
def StoreCall.Replicates (version : String) : StoreCall → Prop
  | .get slot => slot = .source
  | .create space written =>
    space = Slot.replica.space ∧ ∃ secret : Secret, written = secret.replica version
  | .update space written =>
    space = Slot.replica.space ∧ ∃ secret : Secret, written = secret.replica version
  | .delete slot => slot = .replica

namespace Sync

/-- The creation of a secret's replica with its answer. -/
abbrev Effect.create (version : String) (secret : Secret) (answer : Except SyncError Secret) :
    Effect :=
  .store (.create Slot.replica.space (secret.replica version)) answer

/-- The update of a secret's replica with its answer. -/
abbrev Effect.update (version : String) (secret : Secret) (answer : Except SyncError Secret) :
    Effect :=
  .store (.update Slot.replica.space (secret.replica version)) answer

/-- The courses of writing the replica of a secret. -/
inductive Writing (version : String) (secret : Secret) :
    List Effect → Except SyncError Copied → Prop
  | created (made : Secret) :
      Writing version secret [.create version secret (.ok made)] (.ok .created)
  | refused (error : SyncError) (other : error.isAlreadyExists = false) :
      Writing version secret [.create version secret (.error error)] (.error error)
  | updated (found : SyncError) (present : found.isAlreadyExists = true) (made : Secret) :
      Writing version secret
        [.create version secret (.error found), .update version secret (.ok made)] (.ok .updated)
  | missed (found : SyncError) (present : found.isAlreadyExists = true) (error : SyncError) :
      Writing version secret
        [.create version secret (.error found), .update version secret (.error error)]
        (.error error)

/-- The courses of copying the credential. -/
inductive Copying (version : String) : Option Secret → List Effect → Except SyncError Copied → Prop
  | given {secret : Secret} {effects : List Effect} {result : Except SyncError Copied}
      (writing : Writing version secret effects result) :
      Copying version (some secret) effects result
  | fetched {secret : Secret} {effects : List Effect} {result : Except SyncError Copied}
      (writing : Writing version secret effects result) :
      Copying version none (.store (.get .source) (.ok (some secret)) :: effects) result
  | untold : Copying version none [.store (.get .source) (.ok none)] (.ok .nothing)
  | unread (error : SyncError) :
      Copying version none [.store (.get .source) (.error error)] (.error error)

/-- Writing the replica takes exactly these courses. -/
theorem leads_writeReplica_iff {version : String} {secret : Secret} {effects : List Effect}
    {result : Except SyncError Copied} :
    Leads (writeReplica version secret) effects result ↔ Writing version secret effects result := by
  constructor
  · intro h
    simp only [writeReplica, Interaction.bind_eq, leads_note_bind] at h
    rw [leads_store_bind] at h
    obtain ⟨answer, rest, rfl, h⟩ := h
    cases answer with
    | ok made =>
      obtain ⟨rfl, rfl⟩ := leads_done.mp h
      exact .created made
    | error error =>
      cases found : error.isAlreadyExists with
      | false =>
        simp only [found, Bool.false_eq_true, if_false, Interaction.pure_eq, leads_done] at h
        obtain ⟨rfl, rfl⟩ := h
        exact .refused error found
      | true =>
        simp only [found, if_true, leads_note_bind] at h
        rw [leads_store_bind] at h
        obtain ⟨answer, rest, rfl, h⟩ := h
        cases answer with
        | ok made =>
          obtain ⟨rfl, rfl⟩ := leads_done.mp h
          exact .updated error found made
        | error lost =>
          obtain ⟨rfl, rfl⟩ := leads_done.mp h
          exact .missed error found lost
  · intro h
    refine .note ?_
    cases h with
    | created made => exact .ask rfl _ (.done _)
    | refused error other => exact .ask rfl _ (by simp [other])
    | updated found present made =>
      refine .ask rfl _ ?_
      simp only [Interaction.done_bind, present, if_true]
      exact .note (.ask rfl _ (.done _))
    | missed found present error =>
      refine .ask rfl _ ?_
      simp only [Interaction.done_bind, present, if_true]
      exact .note (.ask rfl _ (.done _))

/-- Copying the credential takes exactly these courses. -/
theorem leads_copyCredential_iff {version : String} {source : Option Secret}
    {effects : List Effect} {result : Except SyncError Copied} :
    Leads (copyCredential version source) effects result ↔
      Copying version source effects result := by
  cases source with
  | some secret =>
    rw [copyCredential, leads_writeReplica_iff]
    constructor
    · exact .given
    · rintro ⟨writing⟩
      exact writing
  | none =>
    constructor
    · intro h
      simp only [copyCredential, Interaction.bind_eq] at h
      rw [leads_store_bind] at h
      obtain ⟨answer, rest, rfl, h⟩ := h
      cases answer with
      | error error =>
        obtain ⟨rfl, rfl⟩ := leads_done.mp h
        exact .unread error
      | ok told =>
        cases told with
        | none =>
          simp only [leads_note_bind, Interaction.pure_eq, leads_done] at h
          obtain ⟨rfl, rfl⟩ := h
          exact .untold
        | some secret => exact .fetched (leads_writeReplica_iff.mp h)
    · intro h
      cases h with
      | fetched writing => exact .ask rfl _ (leads_writeReplica_iff.mpr writing)
      | untold => exact .ask rfl _ (.note (.done _))
      | unread error => exact .ask rfl _ (.done _)

/-! ## What is asked in a course -/

section Asked

variable {version : String} {secret : Secret} {source : Option Secret} {effects : List Effect}
  {effect : Effect} {result : Except SyncError Copied}

theorem Writing.replicates (writing : Writing version secret effects result)
    (asked : effect ∈ effects) :
    ∃ call answer, effect = .store call answer ∧ call.Replicates version := by
  cases writing <;>
    · simp only [List.mem_cons, List.not_mem_nil, or_false] at asked
      rcases asked with rfl | rfl <;> exact ⟨_, _, rfl, rfl, secret, rfl⟩

/-- Copying the credential only looks the pull secret up and writes its replica. -/
theorem Copying.replicates (copying : Copying version source effects result)
    (asked : effect ∈ effects) :
    ∃ call answer, effect = .store call answer ∧ call.Replicates version := by
  cases copying with
  | given writing => exact writing.replicates asked
  | fetched writing =>
    rcases List.mem_cons.mp asked with rfl | later
    · exact ⟨_, _, rfl, rfl⟩
    · exact writing.replicates later
  | untold =>
    obtain rfl := List.mem_singleton.mp asked
    exact ⟨_, _, rfl, rfl⟩
  | unread error =>
    obtain rfl := List.mem_singleton.mp asked
    exact ⟨_, _, rfl, rfl⟩

end Asked

end Sync

end PullSecretSync
