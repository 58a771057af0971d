import PullSecretSync.Proofs.World

/-!
# Handling keeps the view sound

A cluster that answers truthfully keeps the view sound while an event is handled, whatever conflict
the writing of the status runs into: either the event is dealt with, or it is put off and still
expected. Each kind of course is one lemma about the view.
-/

namespace PullSecretSync

open Sync

variable {settings : Settings} {version : String} {now : Instant} {inFlight : UInt64}
  {retries : UInt32} {event : SecretEvent} {effects : List Effect} {cluster middle last : Cluster}
  {manager : Manager} {sourced : Bool} {role : Role} {secret : Secret}

namespace Cluster

/-- Writing the replica is seen in the view, or changes nothing. -/
theorem Puts.sound (puts : Puts cluster (secret.replica version) last)
    (sound : ((cluster.view manager sourced).defer event).Sound version)
    (confirmed : (cluster.view manager sourced).slot .source ≠ none →
      ((cluster.view manager sourced).defer event).Expects .source false ∨
        ((cluster.view manager sourced).defer event).Expects .replica true)
    (withdrawn : (cluster.view manager sourced).slot .source = none →
      ((cluster.view manager sourced).defer event).Expects .source true) :
    ((last.view manager sourced).defer event).Sound version ∧
      (last.view manager sourced).slot .replica = some (secret.replica version) ∧
      (last.view manager sourced).slot .source = (cluster.view manager sourced).slot .source ∧
      last.config = cluster.config ∧
      ((cluster.view manager sourced).Timely .source event →
        (last.view manager sourced).Timely .source event) := by
  cases puts with
  | untold same => exact ⟨sound, same, rfl, rfl, id⟩
  | told =>
    have seen : (cluster.put .replica (secret.replica version)).view manager sourced =
        (cluster.view manager sourced).put .replica (secret.replica version) := by
      rw [← view_put .replica]
      simp [Role.slot]
    rw [seen]
    have fits := Role.fits_replica secret version
    exact ⟨sound.put_replica fits confirmed withdrawn, View.slot_put_self,
      View.slot_put_of_ne (by decide), rfl, (·.put_replica _)⟩

/-- The event is dealt with if the status is written, and is put off otherwise. -/
theorem Answers.sound {status : ConditionStatus} {answer : Except SyncError Unit}
    (answers : Answers cluster
      (.writeStatus (cluster.config.settle now Config.credentialType status) answer) last)
    (sound : ((cluster.view manager sourced).defer event).Sound version)
    (settled : ((cluster.view manager sourced).settle status).Sound version) :
    ((last.view manager sourced).meet (fate event (flushed answer))).Sound version ∧
      last.config.spec = cluster.config.spec := by
  rcases answers.of_writeStatus with ⟨rfl, rfl⟩ | ⟨name, rfl, rfl⟩
  · rw [view_record_settle]
    exact ⟨settled, rfl⟩
  · exact ⟨sound, rfl⟩

/-- Managing the credential succeeds. Before its condition is set the event is still expected, and
afterwards it need not be. -/
theorem Exchanges.managing {outcome : Except SyncError Config}
    (exchanges : Exchanges cluster effects last)
    (managing : Managing version now cluster.config event effects outcome)
    (sound : ((cluster.view manager sourced).defer event).Sound version)
    (fits : role.Fits event.secret)
    (timely : event.deleted = false → (cluster.view manager sourced).Timely role event)
    (relevant : event.secret.role? = some .source ∨
      event.secret.role? = some .replica ∧ event.deleted = true) :
    ∃ status, outcome = .ok (cluster.config.settle now Config.credentialType status) ∧
      last.config = cluster.config ∧ ((last.view manager sourced).defer event).Sound version ∧
      ((last.view manager sourced).settle status).Sound version := by
  cases managing with
  | irrelevant none => simp [none] at relevant
  | echoed replica kept => simp [replica, kept] at relevant
  | restored replica removed copying told =>
    rcases exchanges.copying copying with ⟨source, present, -, puts⟩ | ⟨-, ⟨⟩, -⟩
    have present : (cluster.view manager sourced).slot .source = some source := present
    obtain ⟨kept, copied, same, config, -⟩ := puts.sound sound
      (fun _ => .inr (View.expects_defer_self replica removed))
      (fun absent => by simp [present] at absent)
    exact ⟨.holds, rfl, config, kept, kept.restore (same.trans present) copied⟩
  | untold _ _ copying =>
    rcases exchanges.copying copying with ⟨-, -, ⟨copied, ⟨⟩, told⟩, -⟩ | ⟨-, ⟨⟩, -⟩
    exact absurd rfl told
  | orphaned replica _ copying =>
    rcases exchanges.copying copying with ⟨-, -, ⟨copied, ⟨⟩, -⟩, -⟩ | ⟨absent, -, rfl⟩
    have same : role = .replica := fits.eq replica
    exact ⟨.fails, rfl, rfl, sound, sound.orphan (same ▸ fits) absent⟩
  | unrestored _ _ copying other =>
    rcases exchanges.copying copying with ⟨-, -, ⟨copied, ⟨⟩, -⟩, -⟩ | ⟨-, ⟨⟩, -⟩
    cases other
  | withdrawn source removed absent =>
    obtain ⟨-, rfl⟩ := (exchanges_singleton_iff.mp exchanges).of_delete
    have seen : (cluster.erase .replica).view manager sourced =
        (cluster.view manager sourced).erase .replica := view_erase .replica
    have same : role = .source := fits.eq source
    have kept : (((cluster.view manager sourced).erase .replica).defer event).Sound version := by
      rw [← View.erase_defer]
      exact sound.erase_replica
    rw [seen]
    exact ⟨.fails, rfl, config_erase _, kept,
      kept.withdraw removed (same ▸ fits) View.slot_erase_self⟩
  | kept _ _ other =>
    obtain ⟨absent, -⟩ := (exchanges_singleton_iff.mp exchanges).of_delete
    rw [gone, other] at absent
    cases absent
  | copied source removed copying =>
    cases copying with
    | given writing =>
      obtain ⟨-, puts⟩ := exchanges.writing writing
      obtain rfl := fits.eq source
      have formed := sound.toFormed.of_defer
      obtain ⟨kept, copied, -, config, timely'⟩ := puts.sound sound
        (fun _ => .inl (View.expects_defer_self source removed)) (by
          intro absent
          have outdated := formed.expects_of_outdated (timely removed) removed (by simp [absent])
          rw [absent] at outdated
          exact View.expects_defer_iff.mpr (.inl outdated))
      exact ⟨.holds, rfl, config, kept, kept.copy removed (timely' (timely removed)) copied⟩
  | uncopied _ _ copying =>
    cases copying with
    | given writing =>
      obtain ⟨⟨copied, ⟨⟩, -⟩, -⟩ := exchanges.writing writing

/-- Handling an event keeps the view sound: the event is dealt with, or put off. -/
theorem Exchanges.handling {handled : Handled} (exchanges : Exchanges cluster effects last)
    (handling : Handling settings now inFlight cluster.config retries event effects handled)
    (followed : cluster.config.spec.Followed)
    (sound : ((cluster.view manager sourced).defer event).Sound settings.version)
    (fits : role.Fits event.secret)
    (timely : event.deleted = false → (cluster.view manager sourced).Timely role event) :
    ((last.view manager sourced).meet (fate event handled.result)).Sound settings.version ∧
      last.config.spec = cluster.config.spec := by
  cases handling with
  | busy =>
    obtain rfl := exchanges_nil_iff.mp exchanges
    exact ⟨sound, rfl⟩
  | ignored decided =>
    rcases decided with decided | decided | decided
    · exact absurd (grounds_of_decision decided) followed.1
    · exact absurd (fits.named.symm.trans (grounds_of_decision decided)) (by simp)
    · exact absurd (grounds_of_decision decided).2 followed.2
  | acknowledged decided known =>
    obtain rfl := exchanges_nil_iff.mp exchanges
    obtain ⟨replica, kept, -⟩ := grounds_of_decision decided
    obtain rfl := fits.eq replica
    have holds : (last.view manager sourced).status = .holds := by
      simpa [view, Config.conditionHolds] using known
    have settled := sound.acknowledge fits kept (timely kept)
    rw [sound.settle_eq holds] at settled
    exact ⟨settled, rfl⟩
  | welcomed decided news answer =>
    obtain ⟨replica, kept, -⟩ := grounds_of_decision decided
    obtain rfl := fits.eq replica
    exact (exchanges_singleton_iff.mp exchanges).sound sound
      (sound.acknowledge fits kept (timely kept))
  | rejected decided =>
    obtain ⟨replica, kept, unstamped⟩ := grounds_of_decision decided
    have stamped := fits.stamped (fits.eq replica)
    exact absurd (stamped.symm.trans unstamped) (by simp)
  | postponed =>
    obtain rfl := exchanges_nil_iff.mp exchanges
    exact ⟨sound, rfl⟩
  | accepted decided =>
    exact absurd (grounds_of_decision decided).2.2 followed.2
  | steady decided managing same =>
    have grounds := grounds_of_decision decided
    obtain ⟨status, ⟨⟩, config, kept, settled⟩ :=
      exchanges.managing managing sound fits timely grounds
    have unchanged : (last.view manager sourced).status = status := by
      rw [view, config, ← same]
      exact Config.status_condition_settle ..
    rw [kept.settle_eq unchanged] at settled
    exact ⟨settled, by rw [config]⟩
  | turned decided managing changed answer =>
    have grounds := grounds_of_decision decided
    obtain ⟨middle, managed, flush⟩ := exchanges_append_iff.mp exchanges
    obtain ⟨status, ⟨⟩, config, kept, settled⟩ :=
      managed.managing managing sound fits timely grounds
    rw [← config] at flush
    obtain ⟨met, spec⟩ := (exchanges_singleton_iff.mp flush).sound kept settled
    exact ⟨met, by rw [spec, config]⟩
  | failed decided managing answer =>
    have grounds := grounds_of_decision decided
    obtain ⟨middle, managed, -⟩ := exchanges_append_iff.mp exchanges
    obtain ⟨status, ⟨⟩, -⟩ := managed.managing managing sound fits timely grounds

/-- Delivering an event keeps the view sound. -/
theorem Exchanges.delivering {result : Fate × UInt32} (exchanges : Exchanges cluster effects last)
    (delivering : Delivering settings now inFlight retries event effects result)
    (followed : cluster.config.spec.Followed)
    (sound : ((cluster.view manager sourced).defer event).Sound settings.version)
    (fits : role.Fits event.secret)
    (timely : event.deleted = false → (cluster.view manager sourced).Timely role event) :
    ((last.view manager sourced).meet result.1).Sound settings.version ∧
      last.config.spec = cluster.config.spec := by
  cases delivering with
  | homeless => cases (exchanges_singleton_iff.mp exchanges).of_readConfig.1
  | unread => cases (exchanges_singleton_iff.mp exchanges).of_readConfig.1
  | handled handling =>
    obtain ⟨middle, read, rest⟩ := exchanges_cons_iff.mp exchanges
    obtain ⟨found, rfl⟩ := read.of_readConfig
    cases found
    exact rest.handling handling followed sound fits timely

/-- A step of the manager keeps the view sound. -/
theorem Exchanges.stepping {next : Manager} {time : Nat}
    (exchanges : Exchanges cluster effects last)
    (stepping : Leads (manager.step settings now time inFlight) effects next)
    (followed : cluster.config.spec.Followed)
    (sound : (cluster.view manager sourced).Sound settings.version) :
    (last.view next sourced).Sound settings.version ∧
      last.config.spec = cluster.config.spec := by
  cases queued : manager.queue with
  | nil =>
    rw [Manager.step_of_queue_eq_nil queued] at stepping
    obtain ⟨rfl, rfl⟩ := leads_done.mp stepping
    obtain rfl := exchanges_nil_iff.mp exchanges
    exact ⟨sound, rfl⟩
  | cons delivery queue =>
    obtain ⟨result, attending, rfl⟩ := (Manager.leads_step_iff queued).mp stepping
    rw [view_conclude]
    cases attending with
    | brought brings delivering =>
      cases brings with
      | watched event =>
        rw [view_watched queued] at sound
        obtain ⟨sound, fits, timely⟩ := sound.defer_of_lead
        exact exchanges.delivering delivering followed sound fits fun _ => timely
      | kept removed =>
        rw [view_redelivered queued] at sound
        obtain ⟨role, fits⟩ := sound.deferred _ (.inl rfl)
        exact exchanges.delivering delivering followed sound fits (by simp [removed])
      | @reread event kept secret =>
        rw [view_redelivered queued] at sound
        obtain ⟨role, fits⟩ := sound.deferred _ (.inl rfl)
        obtain ⟨middle, read, rest⟩ := exchanges_cons_iff.mp exchanges
        obtain ⟨found, rfl⟩ := read.of_readSecret
        rw [SecretEvent.slot_of_named fits.named, Except.ok.injEq] at found
        obtain ⟨sound, fits, timely⟩ := sound.refresh fits kept found.symm
        exact rest.delivering delivering followed sound fits fun _ => timely
    | vanished kept =>
      rw [view_redelivered queued] at sound
      obtain ⟨role, fits⟩ := sound.deferred _ (.inl rfl)
      obtain ⟨found, rfl⟩ := (exchanges_singleton_iff.mp exchanges).of_readSecret
      rw [SecretEvent.slot_of_named fits.named, Except.ok.injEq] at found
      exact ⟨sound.drop fits kept found.symm, rfl⟩
    | unread => cases (exchanges_singleton_iff.mp exchanges).of_readSecret.1

end Cluster

end PullSecretSync
