import PullSecretSync.Proofs.Managing
import PullSecretSync.Proofs.Tracking

/-!
# Restoring a deleted replica

The condition is set to false when the pull secret is found missing, and a replica that cannot be
written is an error. The two are told apart by the kind of the error alone, so a creation or an
update that finds something missing passes for a missing pull secret. The main result says that
this is the only exception: a course is candid exactly if no such answer occurs in it.
-/

namespace PullSecretSync.Sync

/-- The error with which the store answered for the pull secret. -/
def Effect.denial? : Effect → Option SyncError
  | ⟨.store (.get slot), .error error⟩ => if slot = .source then some error else none
  | _ => none

/-- The error with which the store answered the writing of a secret. -/
def Effect.refusal? : Effect → Option SyncError
  | ⟨.store (.create _ _), .error error⟩ => some error
  | ⟨.store (.update _ _), .error error⟩ => some error
  | _ => none

/-- The store answered that the pull secret is not there. -/
def SourceMissing (effects : List Effect) : Prop :=
  ∃ error ∈ effects.filterMap Effect.denial?, error.isNotFound = true

/-- The store answered the writing of a secret by saying that something is not there. -/
def WriteMissed (effects : List Effect) : Prop :=
  ∃ error ∈ effects.filterMap Effect.refusal?, error.isNotFound = true

/-- Managing the credential ended well and set the condition to false. -/
def SetsFalse (config : Config) (result : Except SyncError Config) : Prop :=
  ∃ managed, result = .ok managed ∧ managed ≠ config ∧
    (managed.condition Config.credentialType).status = .fails

/-- What a course says is what happened: the condition is set to false only for want of the pull
secret, and that something else was missing is an error. -/
structure Candid (config : Config) (effects : List Effect) (result : Except SyncError Config) :
    Prop where
  blames : SetsFalse config result → SourceMissing effects
  admits : ∀ error ∈ effects.filterMap Effect.refusal?, error.isNotFound = true →
    result = .error error

variable {version : String} {now : Instant} {config : Config} {event : SecretEvent}
  {secret : Secret} {outcome : Except SyncError Copied} {error : SyncError}
  {effects : List Effect} {result : Except SyncError Config}

/-- That the replica is there already does not say that something is missing. -/
private theorem not_isNotFound_of_isAlreadyExists (present : error.isAlreadyExists = true) :
    error.isNotFound = false := by
  cases error <;> first | rfl | cases present

/-- A missing thing that the writing of the replica runs into is what the writing ends with. -/
theorem Writing.eq_error (writing : Writing version secret effects outcome)
    (refused : error ∈ effects.filterMap Effect.refusal?) (missing : error.isNotFound = true) :
    outcome = .error error := by
  cases writing with
  | created made => cases refused
  | refused failure other =>
    rw [List.mem_singleton.mp refused]
  | updated found present made =>
    rw [List.mem_singleton.mp refused, not_isNotFound_of_isAlreadyExists present] at missing
    cases missing
  | missed found present failure =>
    have h : error ∈ [found, failure] := refused
    simp only [List.mem_cons, List.not_mem_nil, or_false] at h
    rcases h with rfl | rfl
    · rw [not_isNotFound_of_isAlreadyExists present] at missing
      cases missing
    · rfl

/-- A writing that ends with an error was refused with it. -/
theorem Writing.mem_refusals (writing : Writing version secret effects (.error error)) :
    error ∈ effects.filterMap Effect.refusal? := by
  cases writing with
  | refused _ other => exact List.mem_singleton_self error
  | missed found present _ => exact List.mem_cons_of_mem found (List.mem_singleton_self error)

/-- A missing thing that the writing of a copy runs into is what the copying ends with. -/
theorem Copying.eq_error (copying : Copying version none effects outcome)
    (refused : error ∈ effects.filterMap Effect.refusal?) (missing : error.isNotFound = true) :
    outcome = .error error := by
  cases copying with
  | fetched writing => exact writing.eq_error refused missing
  | untold => cases refused
  | unread _ => cases refused

private theorem not_writeMissed (copying : Copying version none effects outcome)
    (other : ∀ error, outcome = .error error → error.isNotFound = false) :
    ¬ WriteMissed effects := by
  rintro ⟨error, refused, missing⟩
  rw [other error (copying.eq_error refused missing)] at missing
  cases missing

/-- Without a missed write there is nothing to admit. -/
private theorem candid_iff_of_not_writeMissed {settled : Except SyncError Config}
    (clear : ¬ WriteMissed effects) (blames : SetsFalse config result → SourceMissing effects) :
    (Candid config effects result ↔ ¬ WriteMissed effects) ∧
      (WriteMissed effects → result = settled) := by
  have candid : Candid config effects result :=
    ⟨blames, fun error refused missing => absurd ⟨error, refused, missing⟩ clear⟩
  exact ⟨iff_of_true candid clear, fun missed => absurd missed clear⟩

/-- After the deletion of the replica a course is candid exactly if the store did not answer the
writing of the replica by saying that something is not there. If it did, the condition is set to
false and no error is left. -/
theorem manage_candid_iff (role : event.secret.role? = some .replica)
    (deleted : event.deleted = true)
    (course : Leads (manage version now config event) effects result) :
    (Candid config effects result ↔ ¬ WriteMissed effects) ∧
      (WriteMissed effects → result = .ok (config.settle now Config.credentialType .fails)) := by
  have managing := leads_manage_iff.mp course
  cases managing with
  | irrelevant none => simp [role] at none
  | echoed _ kept => simp [deleted] at kept
  | restored _ _ copying told =>
    have clear := not_writeMissed copying (by simp)
    refine candid_iff_of_not_writeMissed clear ?_
    rintro ⟨managed, ⟨⟩, -, fails⟩
    simp at fails
  | untold _ _ copying =>
    have clear := not_writeMissed copying (by simp)
    refine candid_iff_of_not_writeMissed clear ?_
    rintro ⟨managed, ⟨⟩, changed, -⟩
    exact absurd rfl changed
  | @orphaned _ error _ _ copying missing =>
    cases copying with
    | fetched writing =>
      have missed : WriteMissed _ := ⟨error, writing.mem_refusals, missing⟩
      refine ⟨iff_of_false ?_ (not_not_intro missed), fun _ => rfl⟩
      intro candid
      cases candid.admits error writing.mem_refusals missing
    | unread _ =>
      have clear : ¬ WriteMissed [.store (.get .source) (.error error)] := by
        rintro ⟨_, ⟨⟩, -⟩
      refine candid_iff_of_not_writeMissed clear fun _ => ?_
      exact ⟨error, List.mem_singleton_self error, missing⟩
  | @unrestored _ error _ _ copying other =>
    have clear := not_writeMissed copying (by rintro _ ⟨⟩; exact other)
    refine candid_iff_of_not_writeMissed clear ?_
    rintro ⟨managed, ⟨⟩, -⟩
  | withdrawn source => simp [role] at source
  | kept source => simp [role] at source
  | copied source => simp [role] at source
  | uncopied source => simp [role] at source

/-- With the pull secret at hand and the namespace of the replica gone, the condition is set to
false, and the course is not candid. -/
theorem not_candid_of_lost_namespace :
    let config := Config.new "cluster" {}
    let event := SecretEvent.removed (Secret.replica {} "4.1.0")
    let effects := [.store (.get .source) (.ok (some {})),
      .create "4.1.0" {} (.error (.notFound .replica))]
    let result := .ok (config.settle ⟨0, 0⟩ Config.credentialType .fails)
    Leads (manage "4.1.0" ⟨0, 0⟩ config event) effects result ∧ ¬ Candid config effects result := by
  intro config event effects result
  have copying : Copying "4.1.0" none effects (.error (.notFound .replica)) :=
    .fetched (.refused _ rfl)
  have course : Leads (manage "4.1.0" ⟨0, 0⟩ config event) effects result :=
    leads_manage_iff.mpr (.orphaned (Secret.role?_replica {} "4.1.0") rfl copying rfl)
  have missed : WriteMissed effects := ⟨.notFound .replica, List.mem_singleton_self _, rfl⟩
  refine ⟨course, fun candid => ?_⟩
  exact (manage_candid_iff (Secret.role?_replica {} "4.1.0") rfl course).1.mp candid missed

end PullSecretSync.Sync
