import PullSecretSync.Proofs.Site

/-!
# Writings that fail leave no trace

A manager is left alone with one event at a site where the next writings of a status fail. When a
writing fails the secrets were brought in line already, the condition was not, and the count starts
again; the event comes again, takes another course than before, and is settled to the same. In the
end nothing tells how many writings have failed: neither the secrets, nor the condition that is
stored, nor the count.
-/

namespace PullSecretSync

open Sync

/-- A manager goes on at a site, attending to what is queued and queueing what has fallen due, each
at some time and while no sample upsert is in flight, until nothing is left to do. -/
inductive Manager.Finishes (settings : Settings) : Manager → Site → Manager → Site → Prop
  | idle {manager : Manager} {site : Site} (queued : manager.queue = [])
      (delayed : manager.delayed = []) : Finishes settings manager site manager site
  | step {manager last : Manager} {site final : Site} (now : Instant) (time : Nat)
      (rest : Finishes settings
        ((manager.step settings now time 0).run Site.answer site).1
        ((manager.step settings now time 0).run Site.answer site).2.2 last final) :
      Finishes settings manager site last final
  | release {manager last : Manager} {site final : Site} (time : Nat)
      (rest : Finishes settings (manager.release time) site last final) :
      Finishes settings manager site last final

/-- The event carries its secret as it is stored, unless it is a deletion. -/
def Site.Carries (site : Site) (event : SecretEvent) : Prop :=
  event.deleted = false → site.secrets.get? event.slot = some event.secret

/-- An event that found a site at the start is settled at the end. -/
structure SecretEvent.SettledAt (event : SecretEvent) (version : String) (start final : Site) :
    Prop where
  secrets : final.secrets = event.settle version start.config start.secrets
  told : ∀ verdict, event.Tells start.config start.secrets verdict →
    final.config.standing = (verdict.status, verdict.message)
  quiet : (∀ verdict, ¬ event.Tells start.config start.secrets verdict) →
    final.config.standing = start.config.standing

/-- The event is on its way while nothing but the secrets has changed at a site. -/
structure SecretEvent.UnderWay (event : SecretEvent) (version : String) (start site : Site) :
    Prop where
  config : site.config = start.config
  secrets : site.secrets = start.secrets ∨
    site.secrets = event.settle version start.config start.secrets

variable {settings : Settings} {now : Instant} {retries : UInt32} {event brought : SecretEvent}
  {delivery : Delivery} {effects reads : List Effect} {start site after : Site}
  {version : String} {result : Fate × UInt32}

namespace SecretEvent

/-- The slot that is looked up again stays as it is when an event is settled, unless the event is a
deletion. -/
theorem get?_settle_slot {config : Config} {secrets : SecretMap} (applied : event.deleted = false) :
    (event.settle version config secrets).get? event.slot = secrets.get? event.slot := by
  rw [settle]
  split
  · rename_i managing
    have grounds : (event.facts config 0 0 0).Grounds (event.ruling config) :=
      Facts.grounds_transition _
    rw [managing] at grounds
    rcases grounds with role | ⟨role, deleted⟩
    · have slot : event.slot = .source := slot_of_named role
      rw [slot]
      exact SecretMap.get?_follow_of_ne (by decide)
    · cases applied.symm.trans deleted
  · rfl

end SecretEvent

namespace Site

theorem Carries.settle (carries : site.Carries event) (config : Config)
    (failures : List SyncError) :
    Carries ⟨event.settle version site.config site.secrets, config, failures⟩ event := by
  intro applied
  rw [SecretEvent.get?_settle_slot applied]
  exact carries applied

/-- What is brought up is the event as it was. -/
theorem Carries.brings (carries : site.Carries event) (same : delivery.event = event)
    (brings : Brings delivery reads brought) (served : Serves answer site reads after) :
    brought = event ∧ after = site := by
  subst same
  cases brings with
  | watched => exact ⟨rfl, serves_nil_iff.mp served⟩
  | kept => exact ⟨rfl, serves_nil_iff.mp served⟩
  | @reread event applied secret =>
    obtain ⟨found, ended⟩ := serves_cons_iff.mp served
    have stored : site.secrets.get? event.slot = some event.secret := carries applied
    obtain rfl : secret = event.secret := by
      have told : Except.ok (some secret) = Except.ok (site.secrets.get? event.slot) := found
      rw [stored] at told
      exact Option.some.inj (Except.ok.inj told)
    refine ⟨?_, serves_nil_iff.mp ended⟩
    obtain ⟨secret, deleted⟩ := event
    obtain rfl : deleted = false := applied
    rfl

/-- Attending to an event that is carried handles it on the configuration that is stored. -/
theorem Carries.attending (carries : site.Carries event) (same : delivery.event = event)
    (attending : Attending settings now 0 retries delivery effects result)
    (served : Serves answer site effects after) :
    ∃ asked handled, site.Handles settings now site.config retries event asked handled after ∧
      result = (fate event handled.result, handled.retries) := by
  cases attending with
  | brought brings delivering =>
    obtain ⟨middle, early, later⟩ := serves_append_iff.mp served
    obtain ⟨rfl, rfl⟩ := carries.brings same brings early
    cases delivering with
    | homeless => cases (serves_cons_iff.mp later).1
    | unread => cases (serves_cons_iff.mp later).1
    | handled handling =>
      obtain ⟨read, rest⟩ := serves_cons_iff.mp later
      cases read
      exact ⟨_, _, handles handling rest, rfl⟩
  | @vanished event applied =>
    subst same
    have stored : site.secrets.get? event.slot = some event.secret := carries applied
    have told : Except.ok none = Except.ok (site.secrets.get? event.slot) :=
      (serves_cons_iff.mp served).1
    rw [stored] at told
    cases told
  | unread applied => cases (serves_cons_iff.mp served).1

end Site

/-! ## Attempts -/

namespace SecretEvent.UnderWay

/-- What is news at the start is news all the way. -/
theorem tells_iff (underWay : event.UnderWay version start site) {verdict : Verdict} :
    event.Tells site.config site.secrets verdict ↔
      event.Tells start.config start.secrets verdict := by
  rw [underWay.config]
  rcases underWay.secrets with same | settled
  · rw [same]
  · rw [settled]
    exact tells_settle_iff

/-- The secrets are settled to the same all the way. -/
theorem settle_eq (underWay : event.UnderWay version start site) :
    event.settle version site.config site.secrets =
      event.settle version start.config start.secrets := by
  rw [underWay.config]
  rcases underWay.secrets with same | settled
  · rw [same]
  · rw [settled, settle_settle]

end SecretEvent.UnderWay

/-- What an attempt at an event that is under way leaves behind: the event is settled, and is not
put off; or it is still under way and is put off, after a deletion was not confirmed or a writing
failed. -/
inductive SecretEvent.Attempted (event : SecretEvent) (settings : Settings) (start site : Site)
    (retries : UInt32) : Fate → UInt32 → Site → Prop
  | settled {fate : Fate} {final : Site} (settled : event.SettledAt settings.version start final)
      (undeferred : ∀ event, fate ≠ .deferred event) :
      Attempted event settings start site retries fate 0 final
  | unconfirmed (more : retries < settings.retryLimit) :
      Attempted event settings start site retries (.deferred event) (retries + 1) site
  | unwritten {after : Site} {error : SyncError} {failures : List SyncError}
      (underWay : event.UnderWay settings.version start after) (carries : after.Carries event)
      (failed : site.failures = error :: failures) (left : after.failures = failures) :
      Attempted event settings start site retries (.deferred event) 0 after

/-- Every attempt at an event that is under way settles it, or leaves it under way. -/
theorem Site.Handles.attempted {asked : List Effect} {handled : Handled}
    (handles : site.Handles settings now site.config retries event asked handled after)
    (underWay : event.UnderWay settings.version start site) (carries : site.Carries event) :
    event.Attempted settings start site retries (fate event handled.result) handled.retries
      after := by
  cases handles with
  | postponed deferred => exact .unconfirmed (grounds_of_decision deferred).2.2.2
  | settled definite stores quiet plain =>
    refine .settled ⟨underWay.settle_eq, fun verdict tells => ?_, fun _ => ?_⟩ fun put same => ?_
    · exact absurd (underWay.tells_iff.mpr tells) (quiet verdict)
    · rw [underWay.config]
    · rcases plain with rfl | rfl <;> cases same
  | @told _ verdict _ _ definite stores tells written =>
    have news := underWay.tells_iff.mp tells
    have same := underWay.settle_eq
    cases failing : site.failures with
    | nil =>
      simp only [Site.answer, failing, Prod.mk.injEq] at written
      obtain ⟨rfl, rfl⟩ := written
      refine .settled ⟨same, fun other tells => ?_, fun quiet => absurd news (quiet verdict)⟩
        fun put same => by cases same
      obtain rfl : verdict = other := Option.some.inj (news.1.symm.trans tells.1)
      rw [← Config.record_eq]
      exact Config.standing_record
    | cons error failures =>
      simp only [Site.answer, failing, Prod.mk.injEq] at written
      obtain ⟨rfl, rfl⟩ := written
      exact .unwritten ⟨underWay.config, .inr same⟩ (carries.settle _ _) failing rfl

/-! ## The manager -/

/-- How far a manager has come that is left alone with an event: the event is queued, or it was put
off, or it is settled and nothing is left to do. -/
inductive SecretEvent.Stage (event : SecretEvent) (settings : Settings) (start : Site) :
    Manager → Site → Prop
  | queued {delivery : Delivery} {retries : UInt32} {site : Site} (same : delivery.event = event)
      (underWay : event.UnderWay settings.version start site) (carries : site.Carries event) :
      Stage event settings start ⟨[delivery], [], retries⟩ site
  | delayed {due : Nat} {retries : UInt32} {site : Site}
      (underWay : event.UnderWay settings.version start site) (carries : site.Carries event) :
      Stage event settings start ⟨[], [(due, event)], retries⟩ site
  | settled {site : Site} (settled : event.SettledAt settings.version start site) :
      Stage event settings start ⟨[], [], 0⟩ site

/-- A step at an event that is queued is an attempt at it. -/
theorem Manager.exists_attempted (same : delivery.event = event)
    (underWay : event.UnderWay settings.version start site) (carries : site.Carries event)
    (now : Instant) (time : Nat) (retries : UInt32) :
    ∃ fate count after, event.Attempted settings start site retries fate count after ∧
      ((Manager.step ⟨[delivery], [], retries⟩ settings now time 0).run Site.answer site).1 =
        Manager.conclude ⟨[delivery], [], retries⟩ [] (time + delay settings) (fate, count) ∧
      ((Manager.step ⟨[delivery], [], retries⟩ settings now time 0).run Site.answer site).2.2 =
        after := by
  have quiet : ∀ entry (site : Site), Site.answer (.note entry) site = ((), site) :=
    fun _ _ => rfl
  obtain ⟨effects, leads, serves⟩ :=
    leads_run quiet (Manager.step ⟨[delivery], [], retries⟩ settings now time 0) site
  obtain ⟨result, attending, next⟩ := (leads_step_iff rfl).mp leads
  obtain ⟨asked, handled, handles, rfl⟩ := carries.attending same attending serves
  exact ⟨_, _, _, handles.attempted underWay carries, next, rfl⟩

/-- An event that was put off is queued when it falls due. -/
theorem Manager.release_of_ripe {due time : Nat} (ripe : due ≤ time) :
    Manager.release ⟨[], [(due, event)], retries⟩ time = ⟨[.redelivered event], [], retries⟩ := by
  simp [Manager.release, ripe]

namespace SecretEvent.Stage

variable {manager last : Manager} {final : Site}

/-- An attempt brings the manager from one stage to another. -/
theorem of_attempted {fate : Fate} {count : UInt32} {queue : List Delivery}
    (attempted : event.Attempted settings start site retries fate count after)
    (underWay : event.UnderWay settings.version start site) (carries : site.Carries event)
    (due : Nat) :
    event.Stage settings start (Manager.conclude ⟨queue, [], retries⟩ [] due (fate, count))
      after := by
  cases attempted with
  | settled settled undeferred =>
    cases fate with
    | deferred event => exact absurd rfl (undeferred event)
    | completed => exact .settled settled
    | dropped => exact .settled settled
  | unconfirmed => exact .delayed underWay carries
  | unwritten underWay carries => exact .delayed underWay carries

theorem step (stage : event.Stage settings start manager site) (now : Instant) (time : Nat) :
    event.Stage settings start ((manager.step settings now time 0).run Site.answer site).1
      ((manager.step settings now time 0).run Site.answer site).2.2 := by
  cases stage with
  | queued same underWay carries =>
    obtain ⟨fate, count, after, attempted, next, rfl⟩ :=
      Manager.exists_attempted same underWay carries now time _
    rw [next]
    exact of_attempted attempted underWay carries _
  | delayed underWay carries => exact .delayed underWay carries
  | settled settled => exact .settled settled

theorem release (stage : event.Stage settings start manager site) (time : Nat) :
    event.Stage settings start (manager.release time) site := by
  cases stage with
  | queued same underWay carries => exact .queued same underWay carries
  | @delayed due retries _ underWay carries =>
    by_cases ripe : due ≤ time
    · rw [Manager.release_of_ripe ripe]
      exact .queued rfl underWay carries
    · have waiting : Manager.release ⟨[], [(due, event)], retries⟩ time =
          ⟨[], [(due, event)], retries⟩ := by
        simp [Manager.release, ripe]
      rw [waiting]
      exact .delayed underWay carries
  | settled settled => exact .settled settled

/-- When nothing is left to do, the event is settled. -/
theorem finishes (stage : event.Stage settings start manager site)
    (finishes : manager.Finishes settings site last final) :
    event.SettledAt settings.version start final ∧ last.retries = 0 := by
  induction finishes with
  | idle queued delayed =>
    cases stage with
    | queued => cases queued
    | delayed => cases delayed
    | settled settled => exact ⟨settled, rfl⟩
  | step now time rest ih => exact ih (stage.step now time)
  | release time rest ih => exact ih (stage.release time)

/-- What there is still to come: an attempt for every writing that fails, each after as many
attempts as a deletion may be put off. -/
def remaining (settings : Settings) (retries : UInt32) (site : Site) : Nat :=
  site.failures.length * (settings.retryLimit.toNat + 1) +
    (settings.retryLimit.toNat - retries.toNat)

/-- An attempt after which the event is put off leaves less to come. -/
theorem remaining_lt {put : SecretEvent} {count : UInt32}
    (attempted : event.Attempted settings start site retries (.deferred put) count after) :
    remaining settings count after < remaining settings retries site := by
  cases attempted with
  | settled settled undeferred => exact absurd rfl (undeferred put)
  | unconfirmed more =>
    have below : retries.toNat < settings.retryLimit.toNat := UInt32.lt_iff_toNat_lt.mp more
    have next := toNat_succ_of_lt more
    unfold remaining
    omega
  | unwritten underWay carries failed left =>
    have zero : (0 : UInt32).toNat = 0 := rfl
    unfold remaining
    rw [failed, left, List.length_cons, Nat.succ_mul, zero]
    omega

/-- A manager that is left alone gets to where nothing is left to do. -/
theorem exists_finishes {delivery : Delivery} (same : delivery.event = event)
    (underWay : event.UnderWay settings.version start site) (carries : site.Carries event)
    (now : Instant) (time : Nat) :
    ∃ last final, Manager.Finishes settings ⟨[delivery], [], retries⟩ site last final := by
  induction left : remaining settings retries site using Nat.strongRecOn
    generalizing delivery retries site with
  | ind bound ih =>
    obtain ⟨fate, count, after, attempted, next, ended⟩ :=
      Manager.exists_attempted same underWay carries now time retries
    let due := time + Manager.delay settings
    have finishes : ∃ last final, Manager.Finishes settings
        (Manager.conclude ⟨[delivery], [], retries⟩ [] due (fate, count)) after last final := by
      have stage : event.Stage settings start
          (Manager.conclude ⟨[delivery], [], retries⟩ [] due (fate, count)) after :=
        of_attempted attempted underWay carries due
      cases fate with
      | completed => exact ⟨_, _, .idle rfl rfl⟩
      | dropped => exact ⟨_, _, .idle rfl rfl⟩
      | deferred put =>
        have fewer := remaining_lt attempted
        rw [left] at fewer
        cases stage with
        | delayed underWay carries =>
          have again : (Delivery.redelivered event).event = event := rfl
          obtain ⟨last, final, finishes⟩ := ih _ fewer again underWay carries rfl
          refine ⟨last, final, .release due ?_⟩
          rw [← Manager.release_of_ripe (Nat.le_refl due)] at finishes
          exact finishes
    obtain ⟨last, final, finishes⟩ := finishes
    refine ⟨last, final, .step now time ?_⟩
    rw [next, ended]
    exact finishes

end SecretEvent.Stage

/-- Two ends at which the same event is settled cannot be told apart. -/
theorem SecretEvent.SettledAt.unique {final other : Site}
    (one : event.SettledAt version start final) (two : event.SettledAt version start other) :
    final.secrets = other.secrets ∧ final.config.standing = other.config.standing := by
  refine ⟨one.secrets.trans two.secrets.symm, ?_⟩
  by_cases news : ∃ verdict, event.Tells start.config start.secrets verdict
  · obtain ⟨verdict, tells⟩ := news
    exact (one.told verdict tells).trans (two.told verdict tells).symm
  · have quiet (verdict : Verdict) : ¬ event.Tells start.config start.secrets verdict :=
      fun tells => news ⟨verdict, tells⟩
    exact (one.quiet quiet).trans (two.quiet quiet).symm

namespace Manager

/-- Writings that fail leave no trace. A manager is left alone with an event, at any count, beside
any secrets and any configuration, of which the event carries its secret as it is stored unless it
is a deletion. However many of the next writings of a status fail, and with whatever errors, it gets
to where nothing is left to do; and then the secrets, the status and the message of the condition
that is stored and the count are what they are after no writing failed, at whatever times the event
was attended to and delivered again. -/
theorem failures_leave_no_trace (settings : Settings) (retries : UInt32) (secrets : SecretMap)
    (config : Config) (carries : Site.Carries ⟨secrets, config, []⟩ event)
    (failures : List SyncError) :
    let alone : Manager := { queue := [.watched event], retries }
    (∃ last final, alone.Finishes settings ⟨secrets, config, failures⟩ last final) ∧
      ∀ last final last' final',
        alone.Finishes settings ⟨secrets, config, failures⟩ last final →
        alone.Finishes settings ⟨secrets, config, []⟩ last' final' →
        final.secrets = final'.secrets ∧ final.config.standing = final'.config.standing ∧
          last.retries = last'.retries := by
  intro alone
  let start : Site := ⟨secrets, config, []⟩
  have carried (failures : List SyncError) :
      Site.Carries ⟨secrets, config, failures⟩ event := carries
  have underWay (failures : List SyncError) :
      event.UnderWay settings.version start ⟨secrets, config, failures⟩ := ⟨rfl, .inl rfl⟩
  have stageFromStart (failures : List SyncError) :
      event.Stage settings start alone ⟨secrets, config, failures⟩ :=
    .queued rfl (underWay failures) (carried failures)
  refine ⟨SecretEvent.Stage.exists_finishes rfl (underWay failures) (carried failures) ⟨0, 0⟩ 0,
    fun last final last' final' finishes plain => ?_⟩
  obtain ⟨settled, fresh⟩ := (stageFromStart failures).finishes finishes
  obtain ⟨settled', fresh'⟩ := (stageFromStart []).finishes plain
  obtain ⟨same, standing⟩ := settled.unique settled'
  exact ⟨same, standing, fresh.trans fresh'.symm⟩

/-- The pull secret is applied where there is no replica yet, and two writings fail. The replica is
created, and then, read again, written over twice; in the end the credential is on record, as if the
first writing had succeeded. -/
theorem failures_after_copying_leave_no_trace :
    let settings : Settings := ⟨"4.1.0", "cluster", 1, 5⟩
    let pull : Secret := { metadata := { name := some "coreos-pull-secret",
                                         space := some "kube-system" } }
    let event : SecretEvent := .applied pull
    let alone : Manager := { queue := [.watched event] }
    let secrets : SecretMap := [(.source, pull)]
    let config := Config.new "cluster" {}
    let failures : List SyncError := [.conflict "cluster", .api .unreachable]
    Site.Carries ⟨secrets, config, []⟩ event ∧
      ∃ last final last' final',
        alone.Finishes settings ⟨secrets, config, failures⟩ last final ∧
        alone.Finishes settings ⟨secrets, config, []⟩ last' final' ∧
        (final.secrets = final'.secrets ∧ final.config.standing = final'.config.standing ∧
          last.retries = last'.retries) ∧
        final.failures = [] ∧ final.config.standing = (.holds, "") := by
  intro settings pull event alone secrets config failures
  have carries : Site.Carries ⟨secrets, config, []⟩ event := fun _ => rfl
  have failing : ∃ last final,
      alone.Finishes settings ⟨secrets, config, failures⟩ last final ∧
      final.failures = [] ∧ final.config.standing = (.holds, "") :=
    ⟨_, _, .step ⟨0, 0⟩ 0 <| .release 5000 <| .step ⟨5, 0⟩ 5000 <| .release 10000 <|
      .step ⟨10, 0⟩ 10000 <|
      .idle (List.isEmpty_iff.mp (by decide +kernel)) (List.isEmpty_iff.mp (by decide +kernel)),
      List.isEmpty_iff.mp (by decide +kernel), by decide +kernel⟩
  have plain : ∃ last final, alone.Finishes settings ⟨secrets, config, []⟩ last final :=
    ⟨_, _, .step ⟨0, 0⟩ 0 <|
      .idle (List.isEmpty_iff.mp (by decide +kernel)) (List.isEmpty_iff.mp (by decide +kernel))⟩
  obtain ⟨last, final, finishes, used, holds⟩ := failing
  obtain ⟨last', final', finishes'⟩ := plain
  exact ⟨carries, last, final, last', final', finishes, finishes',
    (failures_leave_no_trace settings 0 secrets config carries failures).2
      last final last' final' finishes finishes', used, holds⟩

end Manager

end PullSecretSync
