import PullSecretSync.Proofs.Copying
import PullSecretSync.Sync.Reconcile

/-!
# Courses of managing the credential

The courses that bringing the replica in line with an event can take. Which of them is possible is
fixed by the role of the event's secret and by whether it was deleted; the rest is up to the
store. An error leaves no configuration behind, so every course with a configuration has settled
the condition, or had nothing to settle.
-/

namespace PullSecretSync.Sync

/-- The deletion of the replica with its answer. -/
abbrev Effect.delete (answer : Except SyncError Unit) : Effect := .store (.delete .replica) answer

/-- That the replica was not there is as good as its deletion. -/
def gone : Except SyncError Unit → Bool
  | .ok () => true
  | .error error => error.isNotFound

/-- The courses of managing the credential after an event. -/
inductive Managing (version : String) (now : Instant) (config : Config) (event : SecretEvent) :
    List Effect → Except SyncError Config → Prop
  | irrelevant (role : event.secret.role? = none) :
      Managing version now config event [] (.ok config)
  | echoed (role : event.secret.role? = some .replica) (deleted : event.deleted = false) :
      Managing version now config event [] (.ok config)
  | restored {effects : List Effect} {copied : Copied}
      (role : event.secret.role? = some .replica) (deleted : event.deleted = true)
      (copying : Copying version none effects (.ok copied)) (told : copied ≠ .nothing) :
      Managing version now config event effects
        (.ok (config.settle now Config.credentialType .holds))
  | untold {effects : List Effect}
      (role : event.secret.role? = some .replica) (deleted : event.deleted = true)
      (copying : Copying version none effects (.ok .nothing)) :
      Managing version now config event effects (.ok config)
  | orphaned {effects : List Effect} {error : SyncError}
      (role : event.secret.role? = some .replica) (deleted : event.deleted = true)
      (copying : Copying version none effects (.error error)) (missing : error.isNotFound = true) :
      Managing version now config event effects
        (.ok (config.settle now Config.credentialType .fails))
  | unrestored {effects : List Effect} {error : SyncError}
      (role : event.secret.role? = some .replica) (deleted : event.deleted = true)
      (copying : Copying version none effects (.error error)) (other : error.isNotFound = false) :
      Managing version now config event effects (.error error)
  | withdrawn {answer : Except SyncError Unit}
      (role : event.secret.role? = some .source) (deleted : event.deleted = true)
      (absent : gone answer = true) :
      Managing version now config event [.delete answer]
        (.ok (config.settle now Config.credentialType .fails))
  | kept {error : SyncError}
      (role : event.secret.role? = some .source) (deleted : event.deleted = true)
      (other : error.isNotFound = false) :
      Managing version now config event [.delete (.error error)] (.error error)
  | copied {effects : List Effect} {copied : Copied}
      (role : event.secret.role? = some .source) (deleted : event.deleted = false)
      (copying : Copying version (some event.secret) effects (.ok copied)) :
      Managing version now config event effects
        (.ok (config.settle now Config.credentialType .holds))
  | uncopied {effects : List Effect} {error : SyncError}
      (role : event.secret.role? = some .source) (deleted : event.deleted = false)
      (copying : Copying version (some event.secret) effects (.error error)) :
      Managing version now config event effects (.error error)

variable {version : String} {now : Instant} {config : Config} {event : SecretEvent}
  {effects : List Effect} {result : Except SyncError Config}

private theorem leads_restoreReplica (role : event.secret.role? = some .replica)
    (deleted : event.deleted = true)
    (h : Leads (restoreReplica version now config) effects result) :
    Managing version now config event effects result := by
  rw [restoreReplica, Interaction.bind_eq, leads_bind] at h
  obtain ⟨first, copied, rest, rfl, hx, h⟩ := h
  have copying := leads_copyCredential_iff.mp hx
  cases copied with
  | ok copied =>
    cases copied with
    | nothing =>
      obtain ⟨rfl, rfl⟩ := leads_done.mp h
      rw [List.append_nil]
      exact .untold role deleted copying
    | _ =>
      obtain ⟨rfl, rfl⟩ := leads_done.mp h
      rw [List.append_nil]
      exact .restored role deleted copying (by decide)
  | error error =>
    cases missing : error.isNotFound with
    | false =>
      simp only [missing, Bool.false_eq_true, if_false, Interaction.pure_eq, leads_done] at h
      obtain ⟨rfl, rfl⟩ := h
      rw [List.append_nil]
      exact .unrestored role deleted copying missing
    | true =>
      simp only [missing, if_true, Interaction.pure_eq, leads_done] at h
      obtain ⟨rfl, rfl⟩ := h
      rw [List.append_nil]
      exact .orphaned role deleted copying missing

private theorem leads_deleteReplica (role : event.secret.role? = some .source)
    (deleted : event.deleted = true) (h : Leads (deleteReplica now config) effects result) :
    Managing version now config event effects result := by
  rw [deleteReplica, Interaction.bind_eq, leads_store_bind] at h
  obtain ⟨answer, rest, rfl, h⟩ := h
  cases answer with
  | ok done =>
    simp only [deleteReplica.conclude, Interaction.bind_eq, Interaction.pure_eq, leads_note_bind,
      leads_done] at h
    obtain ⟨rfl, rfl⟩ := h
    exact .withdrawn role deleted rfl
  | error error =>
    cases missing : error.isNotFound with
    | false =>
      simp only [missing, Bool.false_eq_true, if_false, Interaction.pure_eq, leads_done] at h
      obtain ⟨rfl, rfl⟩ := h
      exact .kept role deleted missing
    | true =>
      simp only [missing, if_true, deleteReplica.conclude, Interaction.bind_eq,
        Interaction.pure_eq, leads_note_bind, leads_done] at h
      obtain ⟨rfl, rfl⟩ := h
      exact .withdrawn role deleted missing

/-- Managing the credential takes exactly these courses. -/
theorem leads_manage_iff :
    Leads (manage version now config event) effects result ↔
      Managing version now config event effects result := by
  constructor
  · intro h
    unfold manage at h
    split at h
    · rename_i role
      obtain ⟨rfl, rfl⟩ := leads_done.mp h
      exact .irrelevant role
    · rename_i role deleted
      obtain ⟨rfl, rfl⟩ := leads_done.mp h
      exact .echoed role deleted
    · rename_i role deleted
      exact leads_restoreReplica role deleted h
    · rename_i role deleted
      exact leads_deleteReplica role deleted h
    · rename_i role deleted
      rw [Interaction.bind_eq, leads_bind] at h
      obtain ⟨first, copied, rest, rfl, hx, h⟩ := h
      have copying := leads_copyCredential_iff.mp hx
      cases copied with
      | ok copied =>
        obtain ⟨rfl, rfl⟩ := leads_done.mp h
        rw [List.append_nil]
        exact .copied role deleted copying
      | error error =>
        obtain ⟨rfl, rfl⟩ := leads_done.mp h
        rw [List.append_nil]
        exact .uncopied role deleted copying
  · intro h
    unfold manage
    cases h with
    | irrelevant role => simp [role]
    | echoed role deleted => simp [role, deleted]
    | @restored _ copied role deleted copying told =>
      simp only [role, deleted, restoreReplica, Interaction.bind_eq]
      refine (leads_copyCredential_iff.mpr copying).bind_quiet ?_
      cases copied with
      | nothing => exact absurd rfl told
      | _ => exact .done _
    | untold role deleted copying =>
      simp only [role, deleted, restoreReplica, Interaction.bind_eq]
      exact (leads_copyCredential_iff.mpr copying).bind_quiet (.done _)
    | orphaned role deleted copying missing =>
      simp only [role, deleted, restoreReplica, Interaction.bind_eq]
      refine (leads_copyCredential_iff.mpr copying).bind_quiet ?_
      simp [missing]
    | unrestored role deleted copying other =>
      simp only [role, deleted, restoreReplica, Interaction.bind_eq]
      refine (leads_copyCredential_iff.mpr copying).bind_quiet ?_
      simp [other]
    | @withdrawn answer role deleted absent =>
      simp only [role, deleted, deleteReplica]
      refine .ask rfl _ ?_
      cases answer with
      | ok => exact .note (.done _)
      | error error =>
        rw [gone] at absent
        simp only [Interaction.done_bind, absent, if_true]
        exact .note (.done _)
    | kept role deleted other =>
      simp only [role, deleted, deleteReplica]
      exact .ask rfl _ (by simp [other])
    | copied role deleted copying =>
      simp only [role, deleted, Interaction.bind_eq]
      exact (leads_copyCredential_iff.mpr copying).bind_quiet (.done _)
    | uncopied role deleted copying =>
      simp only [role, deleted, Interaction.bind_eq]
      exact (leads_copyCredential_iff.mpr copying).bind_quiet (.done _)

/-- Managing the credential only looks the pull secret up, and writes or deletes its replica. -/
theorem Managing.replicates {effect : Effect}
    (managing : Managing version now config event effects result) (asked : effect ∈ effects) :
    ∃ call answer, effect = .store call answer ∧ call.Replicates version := by
  cases managing with
  | irrelevant => cases asked
  | echoed => cases asked
  | restored _ _ copying => exact copying.replicates asked
  | untold _ _ copying => exact copying.replicates asked
  | orphaned _ _ copying => exact copying.replicates asked
  | unrestored _ _ copying => exact copying.replicates asked
  | withdrawn =>
    obtain rfl := List.mem_singleton.mp asked
    exact ⟨_, _, rfl, rfl⟩
  | kept =>
    obtain rfl := List.mem_singleton.mp asked
    exact ⟨_, _, rfl, rfl⟩
  | copied _ _ copying => exact copying.replicates asked
  | uncopied _ _ copying => exact copying.replicates asked

end PullSecretSync.Sync
