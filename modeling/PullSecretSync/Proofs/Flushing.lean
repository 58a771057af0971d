import PullSecretSync.Proofs.Revising

/-!
# When the status is written

An event may call for the status to be written: by the decision on it alone, by a condition that
does not hold yet, or by how managing the credential went. The main result says that handling an
event writes the status if it is called for and not otherwise, once and behind all calls to the
store, and that the outcome tells of this write and of nothing else.
-/

namespace PullSecretSync.Sync

/-- Managing the credential failed, or it changed the status of the credential's condition. -/
def Alters (config : Config) : Except SyncError Config → Prop
  | .error _ => True
  | .ok managed => (managed.condition Config.credentialType).status ≠
      (config.condition Config.credentialType).status

/-- The status has to be written for an event after some questions were asked for it. -/
def Due (settings : Settings) (now : Instant) (inFlight : UInt64) (config : Config)
    (retries : UInt32) (event : SecretEvent) (asked : List Effect) : Prop :=
  match decision settings inFlight config retries event with
  | .rejectUnstamped => True
  | .acceptDeletion => True
  | .acknowledgeOwnWrite => config.conditionHolds Config.credentialType = false
  | .manageCredential => ∃ result,
      Leads (manage settings.version now config event) asked result ∧ Alters config result
  | _ => False

/-- An event was handled by asking some questions first and having the status written then, if that
was due. -/
structure Flushing (due : Prop) (config : Config) (asked written : List Effect)
    (handled : Handled) : Prop where
  /-- Only the store is asked before. -/
  stores : ∀ effect ∈ asked, effect.IsStore
  /-- What is written is the configuration that is left, and it is written once. -/
  final : written = [] ∨ ∃ answer, written = [.writeStatus handled.config answer]
  written_iff : written ≠ [] ↔ due
  flushed_iff : handled.result = .ok .statusFlushed ↔
    written = [.writeStatus handled.config (.ok ())]
  /-- An error is that of the write, never one of the store. -/
  failed_iff : ∀ error, handled.result = .error error ↔
    written = [.writeStatus handled.config (.error error)]
  /-- Nothing is set for an event that is ignored or has to wait. -/
  untouched : ∀ outcome, handled.result = .ok outcome →
    outcome = .ignored ∨ outcome.isRetry = true → handled.config = config
  unchanged : handled.result = .ok .unchanged →
    (handled.config.condition Config.credentialType).status =
      (config.condition Config.credentialType).status

variable {settings : Settings} {now : Instant} {inFlight : UInt64} {retries : UInt32}
  {event : SecretEvent} {config : Config} {effects asked : List Effect} {handled : Handled}
  {due : Prop}

/-- A write that was due accounts for the outcome. -/
theorem Flushing.of_write {last : Config} {count : UInt32} {answer : Except SyncError Unit}
    (stores : ∀ effect ∈ asked, effect.IsStore) (called : due) :
    Flushing due config asked [.writeStatus last answer] ⟨flushed answer, last, count⟩ where
  stores := stores
  final := .inr ⟨answer, rfl⟩
  written_iff := iff_of_true (List.cons_ne_nil _ _) called
  flushed_iff := by cases answer <;> simp [flushed, Except.map]
  failed_iff error := by cases answer <;> simp [flushed, Except.map]
  untouched outcome same settled := by
    cases answer with
    | ok =>
      cases same
      rcases settled with ignored | retry
      · cases ignored
      · cases retry
    | error => cases same
  unchanged same := by cases answer <;> cases same

/-- Where no write is due, the outcome tells of none. -/
theorem Flushing.of_still {last : Config} {count : UInt32} {outcome : Outcome}
    (stores : ∀ effect ∈ asked, effect.IsStore) (idle : ¬ due) (silent : outcome ≠ .statusFlushed)
    (untouched : outcome = .ignored ∨ outcome.isRetry = true → last = config)
    (unchanged : (last.condition Config.credentialType).status =
      (config.condition Config.credentialType).status) :
    Flushing due config asked [] ⟨.ok outcome, last, count⟩ where
  stores := stores
  final := .inl rfl
  written_iff := iff_of_false (fun some => some rfl) idle
  flushed_iff := by simp [silent]
  failed_iff error := by simp
  untouched other same settled := by
    cases same
    exact untouched settled
  unchanged _ := unchanged

/-- Nothing is due while the decision on an event calls for no write. -/
private theorem not_due {transition : Transition}
    (decided : decision settings inFlight config retries event = transition)
    (calm : transition = .busy ∨ transition = .ignoreUnmanaged ∨ transition = .ignoreIrrelevant ∨
      transition = .ignoreWhileRemoved ∨ transition = .retryDeletion) :
    ¬ Due settings now inFlight config retries event asked := by
  rw [Due, decided]
  rcases calm with rfl | rfl | rfl | rfl | rfl <;> exact id

/-- **The status is written exactly when it has to be.** Whatever the store and the writer answer,
handling an event asks the store first and then writes the configuration that is left, once and
only if this is due, and the outcome tells of that write. -/
theorem exists_flushing
    (course : Leads (handle settings now inFlight config retries event) effects handled) :
    ∃ asked written, effects = asked ++ written ∧
      Flushing (Due settings now inFlight config retries event asked) config asked written
        handled := by
  have handling := leads_handle_iff.mp course
  have quiet : ∀ effect ∈ ([] : List Effect), effect.IsStore := List.forall_mem_nil _
  cases handling with
  | busy decided =>
    exact ⟨[], [], rfl, .of_still quiet (not_due decided (by simp)) (by simp) (fun _ => rfl) rfl⟩
  | ignored decided =>
    have idle : ¬ Due settings now inFlight config retries event [] := by
      rcases decided with decided | decided | decided <;> exact not_due decided (by simp)
    exact ⟨[], [], rfl, .of_still quiet idle (by simp) (fun _ => rfl) rfl⟩
  | acknowledged decided known =>
    have idle : ¬ Due settings now inFlight config retries event [] := by simp [Due, decided, known]
    exact ⟨[], [], rfl, .of_still quiet idle (by simp) (fun _ => rfl) rfl⟩
  | welcomed decided news answer =>
    have called : Due settings now inFlight config retries event [] := by rwa [Due, decided]
    exact ⟨[], _, rfl, .of_write quiet called⟩
  | rejected decided answer =>
    have called : Due settings now inFlight config retries event [] := by simp [Due, decided]
    exact ⟨[], _, rfl, .of_write quiet called⟩
  | postponed decided =>
    exact ⟨[], [], rfl, .of_still quiet (not_due decided (by simp)) (by simp) (fun _ => rfl) rfl⟩
  | accepted decided answer =>
    have called : Due settings now inFlight config retries event [] := by simp [Due, decided]
    exact ⟨[], _, rfl, .of_write quiet called⟩
  | steady decided managing same =>
    have idle : ¬ Due settings now inFlight config retries event effects := by
      rw [Due, decided]
      rintro ⟨result, course, alters⟩
      cases course.result_eq (leads_manage_iff.mpr managing)
      exact alters same
    refine ⟨effects, [], (List.append_nil _).symm, ?_⟩
    exact .of_still (fun _ => managing.isStore) idle (by simp) (by simp [Outcome.isRetry]) same
  | @turned asked _ decided managing changed answer =>
    have called : Due settings now inFlight config retries event asked := by
      rw [Due, decided]
      exact ⟨_, leads_manage_iff.mpr managing, changed⟩
    exact ⟨_, _, rfl, .of_write (fun _ => managing.isStore) called⟩
  | @failed asked _ decided managing answer =>
    have called : Due settings now inFlight config retries event asked := by
      rw [Due, decided]
      exact ⟨_, leads_manage_iff.mpr managing, trivial⟩
    exact ⟨_, _, rfl, .of_write (fun _ => managing.isStore) called⟩

/-- The copy of the pull secret cannot be created, and the writing of this error fails as well: the
event fails with the error of the write. -/
theorem flushing_of_failed_report :
    let settings : Settings := ⟨"4.1.0", "cluster", 3, 5⟩
    let source : Secret := { metadata := { name := some "coreos-pull-secret",
                                           space := some "kube-system" } }
    let config := Config.new "cluster" {}
    let refused := SyncError.notFound .replica
    let report := config.reportError ⟨1, 0⟩ Config.credentialType .unknown refused.message
    let asked : List Effect := [.create "4.1.0" source (.error refused)]
    let written : List Effect := [.writeStatus report (.error (.conflict "cluster"))]
    let handled : Handled := ⟨.error (.conflict "cluster"), report, 0⟩
    Leads (handle settings ⟨1, 0⟩ 0 config 2 (.applied source)) (asked ++ written) handled ∧
      ∃ before after, asked ++ written = before ++ after ∧
        Flushing (Due settings ⟨1, 0⟩ 0 config 2 (.applied source) before) config before after
          handled := by
  intro settings source config refused report asked written handled
  have copying : Copying "4.1.0" (some source) asked (.error refused) := .given (.refused _ rfl)
  have managing : Managing "4.1.0" ⟨1, 0⟩ config (.applied source) asked (.error refused) :=
    .uncopied rfl rfl copying
  have course : Leads (handle settings ⟨1, 0⟩ 0 config 2 (.applied source)) (asked ++ written)
      handled := leads_handle_iff.mpr (.failed (by decide) managing _)
  exact ⟨course, exists_flushing course⟩

end PullSecretSync.Sync
