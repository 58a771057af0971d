import Mathlib.Data.List.DropRight
import PullSecretSync.Proofs.Rounds
import PullSecretSync.Proofs.Tracking

/-!
# Waiting for a deletion to be confirmed

The deletion of a replica that is known to be there is put off for a while. The count of deletions
that were put off says how often this has happened since the last event that was not put off, for
whatever reason. The main result says so for every run: the count is that number, it never passes
the limit, and a deletion that finds the limit reached is put off no more.
-/

namespace PullSecretSync

open Sync

/-- The event is to be delivered again for some reason. A failure is none. -/
def Sync.retried : Except SyncError Outcome → Bool
  | .ok outcome => outcome.isRetry
  | .error _ => false

/-- The event was put off until the deletion of the replica is confirmed. -/
def Sync.unconfirmed : Except SyncError Outcome → Bool
  | .ok (.retry (.deletionUnconfirmed _)) => true
  | _ => false

namespace Round

/-- The event of the round is to be delivered again. -/
abbrev retried (round : Round) : Bool := Sync.retried round.handled.result

/-- The round put off the deletion of a replica. -/
abbrev unconfirmed (round : Round) : Bool := Sync.unconfirmed round.handled.result

/-- The wait for a confirmation is over: where samples are managed the credential is managed, and
where they are removed the condition is set to false. -/
def Concludes (settings : Settings) (round : Round) : Prop :=
  round.retried = false ∧ round.handled.retries = 0 ∧
    match round.config.spec.managementState with
    | .unmanaged => round.handled.result = .ok .ignored
    | .removed => ∃ answer,
        round.effects = [.writeStatus round.handled.config answer] ∧
        round.handled.result = flushed answer ∧
        round.handled.config =
          round.config.settle round.now Config.credentialType .fails ∧
        (round.handled.config.condition Config.credentialType).status = .fails
    | _ => Leads (manageAndFlush settings.version round.now round.config round.event)
        round.effects (round.handled.result, round.handled.config)

end Round

/-- The number of unconfirmed deletions among the last rounds, back to one that was not retried. -/
def streak (rounds : List Round) : Nat := (rounds.rtakeWhile (·.retried)).countP (·.unconfirmed)

/-- What the count of deferred deletions says after some rounds. -/
structure Counted (settings : Settings) (rounds : List Round) (retries : UInt32) : Prop where
  le_limit : retries ≤ settings.retryLimit
  eq_streak : retries.toNat = streak rounds
  /-- Every deferred deletion tells its number, which is the count after one more. -/
  numbered : ∀ before round after attempt, rounds = before ++ round :: after →
    round.handled.result = .ok (.retry (.deletionUnconfirmed attempt)) →
    attempt.toNat = streak (before ++ [round]) ∧
      ∃ count, Rounds settings before count ∧ attempt = count + 1 ∧
        attempt.toNat = count.toNat + 1
  /-- No more deletions are deferred in a row than the limit says. -/
  bounded : ∀ before between after, rounds = before ++ between ++ after →
    (∀ round ∈ between, round.retried = true) →
    between.countP (·.unconfirmed) ≤ settings.retryLimit.toNat
  /-- At the limit the deletion of a replica is not deferred again. -/
  concludes : retries = settings.retryLimit → ∀ round : Round, round.Course settings retries →
    round.inFlight = 0 → round.config.conditionHolds Config.credentialType = true →
    round.event.secret.role? = some .replica → round.event.deleted = true →
    round.Concludes settings

variable {settings : Settings} {retries : UInt32} {round : Round} {rounds : List Round}

/-- An event is put off for the upserts in flight, which leaves the count; or it is a deletion that
is put off and counted; or it is not put off, and the count starts again. -/
theorem Sync.Handling.count_cases {now : Instant} {inFlight : UInt64} {config : Config}
    {event : SecretEvent} {effects : List Effect} {handled : Handled}
    (handling : Handling settings now inFlight config retries event effects handled) :
    (handled.result = .ok (.retry .upsertInProgress) ∧ handled.retries = retries ∧
        0 < inFlight) ∨
      (handled.result = .ok (.retry (.deletionUnconfirmed (retries + 1))) ∧
        handled.retries = retries + 1 ∧ retries < settings.retryLimit) ∨
      (Sync.retried handled.result = false ∧ handled.retries = 0) := by
  have definite (answer : Except SyncError Unit) : Sync.retried (flushed answer) = false := by
    cases answer <;> rfl
  cases handling with
  | busy decided => exact .inl ⟨rfl, rfl, grounds_of_decision decided⟩
  | postponed decided =>
    obtain ⟨-, -, -, more⟩ := grounds_of_decision decided
    exact .inr (.inl ⟨rfl, rfl, more⟩)
  | ignored => exact .inr (.inr ⟨rfl, rfl⟩)
  | acknowledged => exact .inr (.inr ⟨rfl, rfl⟩)
  | steady => exact .inr (.inr ⟨rfl, rfl⟩)
  | welcomed _ _ answer => exact .inr (.inr ⟨definite answer, rfl⟩)
  | rejected _ answer => exact .inr (.inr ⟨definite answer, rfl⟩)
  | accepted _ answer => exact .inr (.inr ⟨definite answer, rfl⟩)
  | turned _ _ _ answer => exact .inr (.inr ⟨definite answer, rfl⟩)
  | failed _ _ answer => exact .inr (.inr ⟨definite answer, rfl⟩)

/-! ## Rounds in a row -/

theorem streak_concat_of_not_retried (definite : round.retried = false) :
    streak (rounds ++ [round]) = 0 := by
  rw [streak, List.rtakeWhile_concat_neg _ _ _ (by simp [definite])]
  rfl

theorem streak_concat_of_retried (retried : round.retried = true) :
    streak (rounds ++ [round]) = streak rounds + if round.unconfirmed then 1 else 0 := by
  rw [streak, List.rtakeWhile_concat_pos _ _ _ retried, List.countP_append,
    List.countP_singleton]
  rfl

/-- Rounds that are all retried belong to the last rounds in a row. -/
theorem countP_le_streak_append {between : List Round}
    (retried : ∀ round ∈ between, round.retried = true) :
    between.countP (·.unconfirmed) ≤ streak (rounds ++ between) := by
  induction between using List.reverseRecOn with
  | nil => exact Nat.zero_le _
  | append_singleton between round ih =>
    rw [← List.append_assoc, streak_concat_of_retried (retried round (by simp)),
      List.countP_append, List.countP_singleton]
    have early := ih fun other member => retried other (List.mem_append_left _ member)
    omega

namespace Rounds

/-- The count is the number of unconfirmed deletions in a row. -/
theorem eq_streak (run : Rounds settings rounds retries) : retries.toNat = streak rounds := by
  induction run with
  | nil => rfl
  | @concat rounds retries round rest course ih =>
    rcases (leads_handle_iff.mp course).count_cases with
      ⟨busy, kept, -⟩ | ⟨deferred, counted, more⟩ | ⟨definite, reset⟩
    · rw [kept, ih, streak_concat_of_retried (by rw [Round.retried, busy]; rfl),
        if_neg (by rw [Round.unconfirmed, busy]; decide), Nat.add_zero]
    · rw [counted, toNat_succ_of_lt more, ih,
        streak_concat_of_retried (by rw [Round.retried, deferred]; rfl),
        if_pos (by rw [Round.unconfirmed, deferred]; rfl)]
    · rw [reset, streak_concat_of_not_retried definite]
      rfl

/-- The count never passes the limit. -/
theorem le_limit (run : Rounds settings rounds retries) : retries ≤ settings.retryLimit := by
  rw [UInt32.le_iff_toNat_le]
  induction run with
  | nil => exact Nat.zero_le _
  | @concat rounds retries round rest course ih =>
    rcases (leads_handle_iff.mp course).count_cases with
      ⟨-, kept, -⟩ | ⟨-, counted, more⟩ | ⟨-, reset⟩
    · rw [kept]
      exact ih
    · rw [counted, toNat_succ_of_lt more]
      exact UInt32.lt_iff_toNat_lt.mp more
    · rw [reset]
      exact Nat.zero_le _

end Rounds

/-! ## The limit -/

/-- At the limit the deletion of a replica is decided by how samples are managed. -/
theorem decision_of_limit {config : Config} {event : SecretEvent}
    (holds : config.conditionHolds Config.credentialType = true)
    (role : event.secret.role? = some .replica) (deleted : event.deleted = true) :
    decision settings 0 config settings.retryLimit event =
      match config.spec.managementState with
      | .unmanaged => .ignoreUnmanaged
      | .removed => .acceptDeletion
      | _ => .manageCredential := by
  cases state : config.spec.managementState <;>
    simp [Facts.transition, SecretEvent.facts, state, role, deleted, holds]

namespace Rounds

/-- The number of a deferred deletion is the count after one more, and that of the rounds in a
row. -/
theorem numbered {before after : List Round} {attempt : UInt32}
    (run : Rounds settings (before ++ round :: after) retries)
    (deferred : round.handled.result = .ok (.retry (.deletionUnconfirmed attempt))) :
    attempt.toNat = streak (before ++ [round]) ∧
      ∃ count, Rounds settings before count ∧ attempt = count + 1 ∧
        attempt.toNat = count.toNat + 1 := by
  obtain ⟨count, early, course⟩ := run.at_round
  have counted := (early.concat course).eq_streak
  rcases (leads_handle_iff.mp course).count_cases with
    ⟨busy, -⟩ | ⟨numbered, next, more⟩ | ⟨definite, -⟩
  · cases deferred.symm.trans busy
  · cases deferred.symm.trans numbered
    rw [← counted, next]
    exact ⟨rfl, count, early, rfl, toNat_succ_of_lt more⟩
  · rw [deferred] at definite
    cases definite

/-- As long as nothing but retries come back, the limit bounds the deferred deletions. -/
theorem countP_unconfirmed_le {before between after : List Round}
    (run : Rounds settings (before ++ between ++ after) retries)
    (retried : ∀ round ∈ between, round.retried = true) :
    between.countP (·.unconfirmed) ≤ settings.retryLimit.toNat := by
  obtain ⟨count, early⟩ := run.of_append
  calc between.countP (·.unconfirmed) ≤ streak (before ++ between) :=
        countP_le_streak_append retried
    _ = count.toNat := early.eq_streak.symm
    _ ≤ settings.retryLimit.toNat := UInt32.le_iff_toNat_le.mp early.le_limit

end Rounds

/-- An event that calls for it has the credential managed. -/
theorem Sync.leads_manageAndFlush_of_handle {now : Instant} {inFlight : UInt64} {config : Config}
    {event : SecretEvent} {effects : List Effect} {handled : Handled}
    (decided : decision settings inFlight config retries event = .manageCredential)
    (course : Leads (handle settings now inFlight config retries event) effects handled) :
    Leads (manageAndFlush settings.version now config event) effects
      (handled.result, handled.config) := by
  simp only [handle, Interaction.bind_eq, leads_noteState_bind, decided] at course
  obtain ⟨first, ⟨result, managed⟩, rest, rfl, managing, last⟩ := leads_bind.mp course
  obtain ⟨rfl, rfl⟩ := leads_done.mp last
  rw [List.append_nil]
  exact managing

/-- At the limit the wait for a confirmation is over. -/
theorem Round.Course.concludes (course : round.Course settings settings.retryLimit)
    (idle : round.inFlight = 0)
    (holds : round.config.conditionHolds Config.credentialType = true)
    (role : round.event.secret.role? = some .replica) (deleted : round.event.deleted = true) :
    round.Concludes settings := by
  obtain ⟨event, config, inFlight, now, effects, handled⟩ := round
  obtain rfl : inFlight = 0 := idle
  have decided := @decision_of_limit settings _ _ holds role deleted
  have handling : Handling settings now 0 config settings.retryLimit event effects handled :=
    leads_handle_iff.mp course
  obtain ⟨definite, reset⟩ : Sync.retried handled.result = false ∧ handled.retries = 0 := by
    rcases handling.count_cases with ⟨-, -, busy⟩ | ⟨-, -, more⟩ | definite
    · exact absurd busy (by decide)
    · exact absurd more (UInt32.lt_irrefl _)
    · exact definite
  refine ⟨definite, reset, ?_⟩
  dsimp only at decided ⊢
  cases state : config.spec.managementState with
  | unmanaged =>
    rw [state] at decided
    cases handling with
    | ignored => rfl
    | _ other => cases decided.symm.trans other
  | removed =>
    rw [state] at decided
    cases handling with
    | accepted _ answer => exact ⟨answer, rfl, rfl, rfl, Config.status_condition_settle ..⟩
    | ignored other => simp [decided] at other
    | _ other => cases decided.symm.trans other
  | managed =>
    rw [state] at decided
    exact leads_manageAndFlush_of_handle decided course
  | unrecognized value =>
    rw [state] at decided
    exact leads_manageAndFlush_of_handle decided course

/-- **The count of deferred deletions.** In every run from a fresh start the count is the number of
deletions that were deferred since an event was last not put off, and it never passes the limit. A
deletion that finds the limit reached is deferred no more. -/
theorem Rounds.counted (run : Rounds settings rounds retries) :
    Counted settings rounds retries where
  le_limit := run.le_limit
  eq_streak := run.eq_streak
  numbered := by
    rintro before round after attempt rfl deferred
    exact run.numbered deferred
  bounded := by
    rintro before between after rfl retried
    exact run.countP_unconfirmed_le retried
  concludes := by
    rintro rfl round course idle holds role deleted
    exact course.concludes idle holds role deleted

/-- One deletion is deferred and counted, and an upsert in flight leaves the count. Then the limit
is reached: no pull secret is found, and although the writing of this fails the wait is over. -/
theorem concludes_after_lost_write :
    let settings : Settings := ⟨"4.1.0", "cluster", 1, 5⟩
    let config := (Config.new "cluster" {}).settle ⟨0, 0⟩ Config.credentialType .holds
    let settled := config.settle ⟨3, 0⟩ Config.credentialType .fails
    let deletion := SecretEvent.removed (Secret.replica {} "4.1.0")
    let lost := SyncError.conflict "cluster"
    let rounds : List Round := [
      ⟨deletion, config, 0, ⟨1, 0⟩, [], ⟨.ok (.retry (.deletionUnconfirmed 1)), config, 1⟩⟩,
      ⟨deletion, config, 1, ⟨2, 0⟩, [], ⟨.ok (.retry .upsertInProgress), config, 1⟩⟩]
    let last : Round := ⟨deletion, config, 0, ⟨3, 0⟩,
      [.store (.get .source) (.error (.notFound .source)), .writeStatus settled (.error lost)],
      ⟨.error lost, settled, 0⟩⟩
    Rounds settings (rounds ++ [last]) 0 ∧ Counted settings (rounds ++ [last]) 0 ∧
      streak rounds = 1 ∧ last.Concludes settings := by
  intro settings config settled deletion lost rounds last
  have deferred : Handling settings ⟨1, 0⟩ 0 config 0 deletion _ _ := .postponed (by decide)
  have busy : Handling settings ⟨2, 0⟩ 1 config 1 deletion _ _ := .busy (by decide)
  have copying : Copying "4.1.0" none _ _ := .unread (.notFound .source)
  have managing : Managing "4.1.0" ⟨3, 0⟩ config deletion _ _ :=
    .orphaned (Secret.role?_replica {} "4.1.0") rfl copying rfl
  have ending : Handling settings ⟨3, 0⟩ 0 config 1 deletion _ _ :=
    .turned (by decide) managing (by decide) (.error lost)
  have first : Rounds settings [rounds[0]] 1 := Rounds.nil.concat (leads_handle_iff.mpr deferred)
  have second : Rounds settings rounds 1 := first.concat (leads_handle_iff.mpr busy)
  have course : last.Course settings 1 := leads_handle_iff.mpr ending
  have run : Rounds settings (rounds ++ [last]) 0 := second.concat course
  exact ⟨run, run.counted, rfl,
    second.counted.concludes rfl last course rfl rfl (Secret.role?_replica {} "4.1.0") rfl⟩

end PullSecretSync
