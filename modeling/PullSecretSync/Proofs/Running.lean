import PullSecretSync.Proofs.Delivering

/-!
# Runs of the manager

A run alternates between events from the watch, the release of events that have fallen due, and
attempts at the first delivery. Nothing is assumed about the clock, about the number of upserts in
flight, or about the answers that an attempt gets.
-/

namespace PullSecretSync

/-- An attempt at a delivery: when it was made, what was asked and answered, and what became of the
event. -/
structure Attempt where
  delivery : Delivery
  now : Instant
  /-- The milliseconds at which the attempt was made. -/
  time : Nat
  inFlight : UInt64
  effects : List Sync.Effect
  fate : Fate

/-- What happens to a manager. -/
inductive Moment where
  | watched (event : SecretEvent)
  /-- The events that have fallen due at a time are queued. -/
  | released (time : Nat)
  | attended (attempt : Attempt)

namespace Manager

open Sync

/-- The event waits to be delivered again. -/
def Awaits (manager : Manager) (event : SecretEvent) : Prop :=
  Delivery.redelivered event ∈ manager.queue ∨ ∃ due, (due, event) ∈ manager.delayed

/-- A manager goes through some moments and ends up as another. -/
inductive Runs (settings : Settings) : Manager → List Moment → Manager → Prop
  | nil (manager : Manager) : Runs settings manager [] manager
  | watched {manager last : Manager} {event : SecretEvent} {moments : List Moment}
      (rest : Runs settings (manager.watch event) moments last) :
      Runs settings manager (.watched event :: moments) last
  | released {manager last : Manager} {time : Nat} {moments : List Moment}
      (rest : Runs settings (manager.release time) moments last) :
      Runs settings manager (.released time :: moments) last
  | attended {manager next last : Manager} {attempt : Attempt} {queue : List Delivery}
      {moments : List Moment} (queued : manager.queue = attempt.delivery :: queue)
      (attending : Leads (attend settings attempt.now attempt.inFlight manager.retries
        attempt.delivery) attempt.effects (attempt.fate, next.retries))
      (stepping : Leads (manager.step settings attempt.now attempt.time attempt.inFlight)
        attempt.effects next)
      (rest : Runs settings next moments last) :
      Runs settings manager (.attended attempt :: moments) last

variable {manager next last : Manager} {settings : Settings} {event : SecretEvent}
  {moments before after : List Moment} {attempt : Attempt} {queue : List Delivery}

/-- An event that is put off joins those that wait. -/
theorem insertDelayed_perm (due : Nat) (event : SecretEvent) (delayed : List (Nat × SecretEvent)) :
    (insertDelayed due event delayed).Perm ((due, event) :: delayed) := by
  induction delayed with
  | nil => exact .refl _
  | cons head rest ih =>
    obtain ⟨other, earlier⟩ := head
    rw [insertDelayed]
    split
    · exact .refl _
    · exact (ih.cons (other, earlier)).trans (.swap ..)

/-- What an attempt leaves behind follows from the fate of its event. -/
theorem eq_conclude (queued : manager.queue = attempt.delivery :: queue)
    (attending : Leads (attend settings attempt.now attempt.inFlight manager.retries
      attempt.delivery) attempt.effects (attempt.fate, next.retries))
    (stepping : Leads (manager.step settings attempt.now attempt.time attempt.inFlight)
      attempt.effects next) :
    next = manager.conclude queue (attempt.time + delay settings) (attempt.fate, next.retries) := by
  obtain ⟨result, course, same⟩ := (leads_step_iff queued).mp stepping
  rw [attending.result_eq (leads_attend_iff.mpr course)]
  exact same

@[simp] theorem queue_conclude (due : Nat) (result : Fate × UInt32) :
    (manager.conclude queue due result).queue = queue := by
  obtain ⟨fate, retries⟩ := result
  cases fate <;> rfl

/-- Only a deferred event is put off. -/
theorem delayed_conclude_perm (due : Nat) (fate : Fate) (retries : UInt32) :
    (manager.conclude queue due (fate, retries)).delayed.Perm
      (match fate with
        | .deferred event => (due, event) :: manager.delayed
        | _ => manager.delayed) := by
  cases fate with
  | deferred event => exact insertDelayed_perm due event manager.delayed
  | _ => exact .refl _

theorem Awaits.watch (awaits : manager.Awaits event) (other : SecretEvent) :
    (manager.watch other).Awaits event :=
  awaits.imp (List.mem_append_left _) id

theorem Awaits.release (awaits : manager.Awaits event) (time : Nat) :
    (manager.release time).Awaits event := by
  rcases awaits with queued | ⟨due, delayed⟩
  · exact .inl (List.mem_append_left _ queued)
  · rw [← List.takeWhile_append_dropWhile (p := fun entry => entry.1 ≤ time)
      (l := manager.delayed), List.mem_append] at delayed
    rcases delayed with ripe | unripe
    · exact .inl (List.mem_append_right _ (List.mem_map.mpr ⟨(due, event), ripe, rfl⟩))
    · exact .inr ⟨due, unripe⟩

/-- An event goes on waiting unless the attempt is at its own delivery. -/
theorem Awaits.conclude (queued : manager.queue = attempt.delivery :: queue) (due : Nat)
    (result : Fate × UInt32) (awaits : manager.Awaits event) :
    attempt.delivery = .redelivered event ∨ (manager.conclude queue due result).Awaits event := by
  obtain ⟨fate, retries⟩ := result
  rcases awaits with waiting | ⟨time, waiting⟩
  · rw [queued, List.mem_cons] at waiting
    rcases waiting with same | waiting
    · exact .inl same.symm
    · exact .inr (.inl (by rwa [queue_conclude]))
  · refine .inr (.inr ⟨time, (delayed_conclude_perm due fate retries).mem_iff.mpr ?_⟩)
    cases fate with
    | deferred other => exact List.mem_cons_of_mem _ waiting
    | _ => exact waiting

/-- A deferred event waits. -/
theorem awaits_conclude_deferred (due : Nat) (retries : UInt32) :
    (manager.conclude queue due (.deferred event, retries)).Awaits event :=
  .inr ⟨due, (delayed_conclude_perm due (.deferred event) retries).mem_iff.mpr
    List.mem_cons_self⟩

/-- A run can be cut at any attempt. -/
theorem Runs.at_attempt (run : Runs settings manager (before ++ .attended attempt :: after) last) :
    ∃ here next queue, Runs settings manager before here ∧
      here.queue = attempt.delivery :: queue ∧
      Leads (attend settings attempt.now attempt.inFlight here.retries attempt.delivery)
        attempt.effects (attempt.fate, next.retries) ∧
      Leads (here.step settings attempt.now attempt.time attempt.inFlight) attempt.effects next ∧
      Runs settings next after last := by
  induction before generalizing manager with
  | nil =>
    cases run with
    | attended queued attending stepping rest =>
      exact ⟨_, _, _, .nil _, queued, attending, stepping, rest⟩
  | cons moment before ih =>
    cases run with
    | watched rest =>
      obtain ⟨here, next, queue, prior, cut⟩ := ih rest
      exact ⟨here, next, queue, .watched prior, cut⟩
    | released rest =>
      obtain ⟨here, next, queue, prior, cut⟩ := ih rest
      exact ⟨here, next, queue, .released prior, cut⟩
    | attended queued attending stepping rest =>
      obtain ⟨here, next, queue, prior, cut⟩ := ih rest
      exact ⟨here, next, queue, .attended queued attending stepping prior, cut⟩

end Manager

end PullSecretSync
